import Aiodrive.Gather.Model
import Mathlib.Data.Seq.Defs

/-! `zip_concurrently()` of `modules/zip.py` on sources that do not fail: one `gather()` of queries
for each tuple, and the clause that is to end the iteration with the first source.
-/

namespace Aiodrive.Zip

open Stream' (Seq)

variable {n : Nat} {α : Type*}

/-- The exception of a query on a source that has ended. -/
inductive Failure where
  | stopAsyncIteration
deriving DecidableEq, Repr

/-- How the consumer's `async for` ends. -/
inductive Finish where
  /-- The async generator returns. -/
  | normal
  /-- `StopAsyncIteration` leaves the body of the async generator. -/
  | runtimeError
  | raised (error : Raised Failure)
deriving DecidableEq, Repr

/-- `except* StopAsyncIteration as e: raise StopAsyncIteration from e`. What is raised in such a
clause leaves it in a group, also where the exception that it matched was alone.
-/
def exceptStar : Raised Failure → Raised Failure
  | .group _ | .exception .stopAsyncIteration => .group [.stopAsyncIteration]
  | error => error

/-- An exception that leaves the body of an async generator. -/
def Finish.ofRaised : Raised Failure → Finish
  | .exception .stopAsyncIteration => .runtimeError
  | error => .raised error

/-- Where the iteration is: at the `await gather(...)` for a tuple, at the `yield` with the consumer
running, or behind the consumer's loop.
-/
inductive Place where
  | querying
  | yielding
  | finished (finish : Finish)
deriving DecidableEq, Repr

structure State (n : Nat) (α : Type*) where
  /-- How many tuples have been asked for before the present one. -/
  round : Nat
  /-- The present `gather()`, with one task for the query on each iterator. -/
  gather : Gather.State (Fin n) Failure α
  place : Place
  yielded : List (List α)

/-- What `zip_concurrently()` makes of the end of `gather()`, if it has ended. -/
def State.settle (state : State n α) : State n α :=
  match state.gather.pc with
  | .exited (.returned items) =>
      { state with place := .yielding, yielded := state.yielded ++ [items] }
  | .exited (.raised error) => { state with place := .finished (.ofRaised (exceptStar error)) }
  | .firstWait | .loopWait _ _ => { state with place := .querying }

/-- The top of the loop: `gather(anext(iterator) for iterator in iterators)`. -/
def State.query (round : Nat) (yielded : List (List α)) : State n α :=
  State.settle
    { round
      gather := .initial true (List.finRange n) (fun _ => .pending)
      place := .querying
      yielded }

/-- What `anext()` on an iterator answers, asked for the item at an index. -/
def answer (source : Seq α) (index : Nat) : FutureState Failure α :=
  match source.get? index with
  | some item => .success item
  | none => .exception .stopAsyncIteration

/-- What can happen while a consumer iterates: the query on an iterator is answered, or is cut
short by a request; a wait of `gather()` returns; the consumer asks for the next tuple. The
consumer is not cancelled.
-/
inductive Event (n : Nat) where
  | answers (iterator : Fin n)
  | cancelled (iterator : Fin n)
  | waitReturns
  | asks
deriving DecidableEq, Repr

/-- A step of the present `gather()`, and what follows from it. -/
def State.gatherStep (state : State n α) (event : Gather.Event (Fin n) Failure α)
    : Option (State n α) :=
  match state.place with
  | .querying =>
      (Gather.step state.gather event).map (fun gather => { state with gather }.settle)
  | .yielding | .finished _ => none

def step (sources : Fin n → Seq α) (state : State n α) : Event n → Option (State n α)
  | .answers iterator =>
      state.gatherStep (.complete iterator (answer (sources iterator) state.round))
  | .cancelled iterator =>
      if state.gather.requests.any (fun request => request.task = iterator) then
        state.gatherStep (.complete iterator .cancelled)
      else
        none
  | .waitReturns => state.gatherStep .waitReturns
  | .asks =>
      match state.place with
      | .yielding => some (.query (state.round + 1) state.yielded)
      | .querying | .finished _ => none

/-- The consumer has asked for the first tuple. -/
def State.initial : State n α := .query 0 []

end Aiodrive.Zip
