import Mathlib.Data.List.Basic
import Mathlib.Tactic.TypeStar

/-! States of asyncio futures, as `modules/future_state.py` names them, and what awaiting
code can read of them.
-/

namespace Aiodrive

/-- The state of a future or task; `exception` is any exception but `CancelledError`. -/
inductive FutureState (ε α : Type*) where
  | cancelled
  | exception (exception : ε)
  | pending
  | success (result : α)
deriving DecidableEq, Repr

/-- How a coroutine raises: an exception of an awaitable, a `BaseExceptionGroup`,
`CancelledError`, a failed `assert`, or the `InvalidStateError` of reading a pending future.
-/
inductive Raised (ε : Type*) where
  | exception (exception : ε)
  | group (exceptions : List ε)
  | cancelledError
  | assertionError
  | invalidStateError
deriving DecidableEq, Repr

/-- How a coroutine ends. -/
inductive Outcome (ε β : Type*) where
  | returned (value : β)
  | raised (error : Raised ε)
deriving DecidableEq, Repr

namespace FutureState

variable {ε α : Type*}

/-- `Future.done()` -/
def done : FutureState ε α → Bool
  | pending => false
  | cancelled | exception _ | success _ => true

/-- `Future.cancelled()` -/
def isCancelled : FutureState ε α → Bool
  | cancelled => true
  | exception _ | pending | success _ => false

/-- The exception that `not task.cancelled() and task.exception()` finds on a done task. -/
def exception? : FutureState ε α → Option ε
  | exception error => some error
  | cancelled | pending | success _ => none

/-- The value that `task.result()` returns on a successful task. -/
def result? : FutureState ε α → Option α
  | success value => some value
  | cancelled | exception _ | pending => none

/-- `Future.result()` -/
def result : FutureState ε α → Outcome ε α
  | cancelled => .raised .cancelledError
  | exception error => .raised (.exception error)
  | pending => .raised .invalidStateError
  | success value => .returned value

/-- `FutureState.transfer()`; `none` is the failure of its `assert not future.done()`. -/
def transfer (state future : FutureState ε α) : Option (FutureState ε α) :=
  if future.done then
    none
  else
    match state with
    | pending => some future
    | cancelled => some cancelled
    | exception error => some (exception error)
    | success value => some (success value)

/-- `FutureState.absorb_future()`; `none` is an exception of `future.result()`. -/
def absorbFuture (future : FutureState ε α) : Option (FutureState ε α) :=
  if !future.done then some pending
  else if future.isCancelled then some cancelled
  else
    match future.exception? with
    | some error => some (exception error)
    | none =>
        match future.result with
        | .returned value => some (success value)
        | .raised _ => none

@[simp] theorem done_cancelled : (cancelled : FutureState ε α).done = true := rfl

@[simp] theorem done_exception (error : ε) : (exception error : FutureState ε α).done = true :=
  rfl

@[simp] theorem done_pending : (pending : FutureState ε α).done = false := rfl

@[simp] theorem done_success (value : α) : (success value : FutureState ε α).done = true := rfl

/-- A done state is transferred as it is to a future that is not done. -/
theorem transfer_of_done {state future : FutureState ε α} (done : state.done = true)
    : state.transfer future = if future.done then none else some state := by
  cases state with
  | pending => contradiction
  | cancelled => rfl
  | exception error => rfl
  | success value => rfl

/-- The state of a future is absorbed as it is. -/
@[simp] theorem absorbFuture_eq (future : FutureState ε α) : future.absorbFuture = some future := by
  cases future <;> rfl

/-- A future is pending exactly while it is not done. -/
theorem done_eq_false_iff {state : FutureState ε α} : state.done = false ↔ state = pending := by
  cases state <;> simp

theorem isCancelled_iff {state : FutureState ε α}
    : state.isCancelled = true ↔ state = cancelled := by
  cases state <;> simp [isCancelled]

/-- A future that no exception is set on succeeds unless it is cancelled. -/
theorem success_of_not_cancelled {state : FutureState Empty Unit} (done : state.done = true)
    (notCancelled : state.isCancelled = false)
    : state = success () := by
  cases state with
  | pending => contradiction
  | cancelled => contradiction
  | exception error => exact error.elim
  | success value => rfl

/-- A done future that neither failed nor was cancelled succeeded. -/
theorem success_of_done {state : FutureState ε α} (done : state.done = true)
    (noException : state.exception? = none) (notCancelled : state.isCancelled = false)
    : ∃ value, state = success value := by
  cases state <;> simp_all [FutureState.done, exception?, isCancelled]

end FutureState

/-- The states of all tasks in the event loop, by task. -/
abbrev TaskTable (ι ε α : Type*) := ι → FutureState ε α

end Aiodrive
