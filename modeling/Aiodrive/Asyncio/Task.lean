import Mathlib.Logic.Function.Iterate

/-! The count of cancel requests that asyncio keeps on a task, which `Task.cancelling()` reads
and `Task.uncancel()` lowers.
-/

namespace Aiodrive

/-- A task that has not ended, as far as the requests to cancel it go. -/
structure Task where
  /-- `Task.cancelling()` -/
  cancelling : Nat
  /-- The `message` of the last request, which the thrown `CancelledError` carries. -/
  message : Option String
deriving DecidableEq, Repr

namespace Task

/-- `Task.cancel(message)` -/
def cancel (task : Task) (message : Option String) : Task :=
  { cancelling := task.cancelling + 1, message }

/-- `Task.uncancel()`, which stops at zero. -/
def uncancel (task : Task) : Task :=
  { task with cancelling := task.cancelling - 1 }

@[simp] theorem cancel_cancelling (task : Task) (message : Option String)
    : (task.cancel message).cancelling = task.cancelling + 1 :=
  rfl

@[simp] theorem uncancel_cancelling (task : Task)
    : task.uncancel.cancelling = task.cancelling - 1 :=
  rfl

/-- `count` calls of `Task.uncancel()` take back at most `count` requests. -/
@[simp] theorem iterate_uncancel_cancelling (task : Task) (count : Nat)
    : (uncancel^[count] task).cancelling = task.cancelling - count := by
  induction count with
  | zero => simp
  | succ count ih =>
      rw [Function.iterate_succ_apply', uncancel_cancelling, ih]
      omega

/-- Requests with the message of the last one, by induction on their number. -/
theorem iterate_cancel (cancelling count : Nat) (message : Option String)
    : (fun task => cancel task message)^[count] { cancelling, message }
      = { cancelling := cancelling + count, message } := by
  induction count with
  | zero => rfl
  | succ count ih =>
      rw [Function.iterate_succ_apply', ih]
      simp [cancel, Nat.add_assoc]

end Task

/-- What code that is given a task may do with its count: subclasses of `Task` override both
methods, under the law that one call takes one request back.
-/
class TaskLike (τ : Type) where
  /-- `task.cancelling()` -/
  cancelling : τ → Nat
  /-- `task.uncancel()` -/
  uncancel : τ → τ
  cancelling_uncancel : ∀ task, cancelling (uncancel task) = cancelling task - 1

instance Task.taskLike : TaskLike Task where
  cancelling := Task.cancelling
  uncancel := Task.uncancel
  cancelling_uncancel := Task.uncancel_cancelling

end Aiodrive
