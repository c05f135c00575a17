import Aiodrive.Shield.Model
import Aiodrive.Transition.Runs

/-! `shield_aiter()` of `modules/aiter.py`, and a consumer that asks it for one item after the other
and may be cancelled while it waits.
-/

namespace Aiodrive.ShieldAiter

variable {ε α : Type*}

/-- The exceptions of `anext()`. -/
inductive Failure (ε : Type*) where
  | stopAsyncIteration
  | raised (error : ε)
deriving DecidableEq, Repr

/-- How a request ends: with an item, with an exception, or with a `CancelledError`. -/
abbrev Answer (ε α : Type*) := FutureState (Failure ε) α

/-- Where the generator is: before its first request or at a `yield`; at
`await shield(anext(iterator))`; or at its end.
-/
inductive Place (ε α : Type*) where
  | paused
  | awaiting (waiter : Shielded (Failure ε) α)
  | ended
deriving DecidableEq, Repr

/-- The generator with the task of its last request, the number of its requests, what the iterator
has answered them, and what the consumer got for its own.
-/
structure State (ε α : Type*) where
  place : Place ε α
  request : Option (Answer ε α)
  requests : Nat
  answered : List (Answer ε α)
  received : List (Answer ε α)

def State.initial : State ε α :=
  { place := .paused, request := none, requests := 0, answered := [], received := [] }

/-- The consumer calls `anext()`, or closes the generator; its task is cancelled, or goes on where
it waits. The iterator answers, and the callback of the shield runs.
-/
inductive Event (ε α : Type*) where
  | asks
  | closes
  | cancel
  | resume
  | answers (answer : Answer ε α)
  | innerCallback
deriving DecidableEq, Repr

/-- From a `yield` to `await shield(anext(iterator))`, in a new task. -/
def State.ask (state : State ε α) : State ε α :=
  { state with
    place := .awaiting .new, request := some .pending, requests := state.requests + 1 }

/-- The `await` goes on with a result: an item is yielded, and `StopAsyncIteration` ends the loop as
any other exception does.
-/
def State.goOn (state : State ε α) (result : Answer ε α) : State ε α :=
  match result with
  | .success _ => { state with place := .paused, received := state.received ++ [result] }
  | .cancelled | .exception _ | .pending =>
      { state with place := .ended, received := state.received ++ [result] }

def step (state : State ε α) : Event ε α → Option (State ε α)
  | .asks =>
      match state.place with
      | .paused => some state.ask
      | .ended =>
          -- A generator that has ended has nothing more to give
          some { state with received := state.received ++ [.exception .stopAsyncIteration] }
      | .awaiting _ => none
  | .closes =>
      match state.place with
      | .paused | .ended => some { state with place := .ended }
      | .awaiting _ => none
  | .cancel =>
      match state.place with
      | .awaiting waiter => some { state with place := .awaiting waiter.cancel }
      | .paused | .ended => none
  | .resume =>
      match state.place with
      | .awaiting waiter => waiter.result?.map state.goOn
      | .paused | .ended => none
  | .answers answer =>
      match state.request with
      | some .pending =>
          if answer.done then
            some { state with request := some answer, answered := state.answered ++ [answer] }
          else
            none
      | some .cancelled | some (.exception _) | some (.success _) | none => none
  | .innerCallback =>
      match state.place, state.request with
      | .awaiting waiter, some inner =>
          (waiter.innerCallback inner).map (fun waiter =>
            { state with place := .awaiting waiter })
      | .awaiting _, none | .paused, _ | .ended, _ => none

end Aiodrive.ShieldAiter
