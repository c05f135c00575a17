import Aiodrive.Asyncio.Future
import Aiodrive.Transition.Runs
import Mathlib.Logic.Function.Basic

/-! `Latch` of `modules/latch.py`, with the tasks of its loop that wait on it. The futures of a
latch are numbered in the order of their creation, and the resolved ones are those before the
current one.
-/

namespace Aiodrive

/-- `future` is the number of the latch's current `_future`. -/
structure Latch where
  future : Nat
  set : Bool
deriving DecidableEq, Repr

namespace Latch

def new : Latch := { future := 0, set := false }

/-- `Latch.toggle(value)`, which `set()` and `unset()` call. The current future is never done. -/
def toggle (latch : Latch) (value : Bool) : Latch :=
  if latch.set ≠ value then { future := latch.future + 1, set := value } else latch

/-- The state of a future that is or was the latch's `_future`. -/
def state (latch : Latch) (future : Nat) : FutureState Empty Unit :=
  if future < latch.future then .success () else .pending

/-- The coroutines of a latch. -/
inductive Method where
  | wait
  | waitSet
  | waitUnset
deriving DecidableEq, Repr

/-- The method reaches its `await asyncio.shield(self._future)`. -/
def Method.suspends (latch : Latch) : Method → Bool
  | wait => true
  | waitSet => !latch.set
  | waitUnset => latch.set

/-- What the method returns from where it is not suspended, or not any more. -/
def Method.result (latch : Latch) : Method → Option Bool
  | wait => some latch.set
  | waitSet | waitUnset => none

/-- Where a task is: nowhere near the latch, suspended with the `outer` future of
`asyncio.shield()`, or past its last call.
-/
inductive Place where
  | idle
  | suspended (method : Method) (inner : Nat) (outer : FutureState Empty Unit)
  | returned (value : Option Bool)
  | cancelled
deriving DecidableEq, Repr

/-- A call of a method, up to its suspension or its end. -/
def call (latch : Latch) (method : Method) : Place :=
  if method.suspends latch then .suspended method latch.future .pending
  else .returned (method.result latch)

/-- The latch and the tasks that may wait on it. -/
structure State (κ : Type*) where
  latch : Latch
  tasks : κ → Place

/-- What can happen: somebody toggles the latch; a task calls a method; the loop runs the callback
that `asyncio.shield()` put on the inner future, or resumes the task; a task is asked to cancel.
-/
inductive Event (κ : Type*) where
  | toggle (value : Bool)
  | call (task : κ) (method : Method)
  | innerDone (task : κ)
  | resume (task : κ)
  | cancel (task : κ)
deriving DecidableEq, Repr

variable {κ : Type*} [DecidableEq κ]

def State.initial : State κ := { latch := .new, tasks := fun _ => .idle }

def State.setPlace (state : State κ) (task : κ) (place : Place) : State κ :=
  { state with tasks := Function.update state.tasks task place }

def step (state : State κ) : Event κ → Option (State κ)
  | .toggle value => some { state with latch := state.latch.toggle value }
  | .call task method =>
      match state.tasks task with
      | .suspended _ _ _ => none
      | .idle | .returned _ | .cancelled => some (state.setPlace task (state.latch.call method))
  | .innerDone task =>
      match state.tasks task with
      | .suspended method inner .pending =>
          -- The callback of a cancelled `outer` has no effect
          if (state.latch.state inner).done then
            some (state.setPlace task (.suspended method inner (state.latch.state inner)))
          else
            none
      | .suspended _ _ _ | .idle | .returned _ | .cancelled => none
  | .resume task =>
      match state.tasks task with
      | .suspended method _ (.success _) =>
          some (state.setPlace task (.returned (method.result state.latch)))
      | .suspended _ _ .cancelled => some (state.setPlace task .cancelled)
      | .suspended _ _ _ | .idle | .returned _ | .cancelled => none
  | .cancel task =>
      match state.tasks task with
      -- A request that finds the outer future done is thrown when the task resumes all the same
      | .suspended method inner _ => some (state.setPlace task (.suspended method inner .cancelled))
      | .idle | .returned _ | .cancelled => none

/-- The events by which a task moves on. -/
def Event.task? : Event κ → Option κ
  | toggle _ => none
  | call task _ | innerDone task | resume task | cancel task => some task

end Latch

end Aiodrive
