import Aiodrive.Asyncio.Future
import Aiodrive.Asyncio.Task

/-! `GuaranteedTask` of `modules/guaranteed_task.py`: a task that keeps the requests made before
its first step, and makes them of its base class in that step only.
-/

namespace Aiodrive

variable {ε α : Type*}

/-- A `GuaranteedTask`, with the count that its base class keeps. -/
structure GuaranteedTask where
  cancellationCount : Nat
  ready : Bool
  parent : Task
deriving DecidableEq, Repr

namespace GuaranteedTask

/-- `GuaranteedTask(awaitable)` -/
def new : GuaranteedTask :=
  { cancellationCount := 0, ready := false, parent := { cancelling := 0, message := none } }

/-- `super().cancel()`, which a done task refuses. -/
def superCancel (task : GuaranteedTask) (state : FutureState ε α) : GuaranteedTask :=
  if state.done then task else { task with parent := task.parent.cancel none }

/-- `GuaranteedTask.cancel()` on a task in the given state, with the returned flag. -/
def cancel (task : GuaranteedTask) (state : FutureState ε α) : GuaranteedTask × Bool :=
  if state.isCancelled then (task, false)
  else
    let task := { task with cancellationCount := task.cancellationCount + 1 }
    (if task.ready then task.superCancel state else task, true)

/-- `GuaranteedTask.uncancel()` -/
def uncancel (task : GuaranteedTask) : GuaranteedTask :=
  if task.cancellationCount > 0 then
    let task := { task with cancellationCount := task.cancellationCount - 1 }
    if task.ready then { task with parent := task.parent.uncancel } else task
  else
    task

instance taskLike : TaskLike GuaranteedTask where
  cancelling := cancellationCount
  uncancel := uncancel
  cancelling_uncancel task := by
    unfold uncancel
    split
    · cases task.ready <;> rfl
    · omega

/-- The first step of the task, in which `task_main()` makes the kept requests of the base class
and goes on to await its awaitable. A request that the base class already has is thrown
before `task_main()` is entered, and `none` says so.
-/
def firstStep (task : GuaranteedTask) : Option GuaranteedTask :=
  if task.parent.cancelling > 0 then none
  else
    some { task with
      ready := true
      parent := (fun parent => parent.cancel none)^[task.cancellationCount] task.parent }

/-- Before its first step, the base class has no request. -/
def Untouched (task : GuaranteedTask) : Prop :=
  task.ready = false → task.parent.cancelling = 0

theorem new_untouched : new.Untouched := fun _ => rfl

@[simp] theorem cancel_ready (task : GuaranteedTask) (state : FutureState ε α)
    : (task.cancel state).1.ready = task.ready := by
  simp only [cancel, superCancel]
  split
  · rfl
  · split
    · split <;> rfl
    · rfl

@[simp] theorem uncancel_ready (task : GuaranteedTask) : task.uncancel.ready = task.ready := by
  unfold uncancel
  split
  · cases task.ready <;> simp
  · rfl

/-- `cancel()` answers `False` on a cancelled task only. -/
theorem cancel_eq_false_iff (task : GuaranteedTask) (state : FutureState ε α)
    : (task.cancel state).2 = false ↔ state = .cancelled := by
  cases state <;> simp [cancel, FutureState.isCancelled]

/-- A request made before the first step does not reach the base class. -/
theorem Untouched.cancel {task : GuaranteedTask} (untouched : task.Untouched)
    (state : FutureState ε α)
    : (task.cancel state).1.Untouched := by
  intro unready
  rw [cancel_ready] at unready
  have parent := untouched unready
  simp only [GuaranteedTask.cancel, unready, Bool.false_eq_true, if_false]
  split <;> exact parent

theorem Untouched.uncancel {task : GuaranteedTask} (untouched : task.Untouched)
    : task.uncancel.Untouched := by
  intro unready
  rw [uncancel_ready] at unready
  have parent := untouched unready
  unfold GuaranteedTask.uncancel
  split
  · simpa only [unready, Bool.false_eq_true, if_false] using parent
  · exact parent

/-- A task that has not been started enters `task_main()` in its first step. -/
theorem Untouched.firstStep {task : GuaranteedTask} (untouched : task.Untouched)
    (unready : task.ready = false)
    : ∃ next, task.firstStep = some next ∧ next.ready = true := by
  simp [GuaranteedTask.firstStep, untouched unready]

end GuaranteedTask

end Aiodrive
