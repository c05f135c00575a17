import Aiodrive.Asyncio.Future
import Mathlib.Logic.Function.Basic

/-! `asyncio.wait()` and cancel requests, the two ways the combinators act on tasks. A wait is
ready from its stated condition on, and returns the done and the still pending tasks.
-/

namespace Aiodrive

variable {ι ε α : Type*}

/-- One `task.cancel(message)` call. -/
structure CancelRequest (ι : Type*) where
  task : ι
  message : Option String
deriving DecidableEq, Repr

/-- The loop `for task in tasks: task.cancel(message)`. -/
def cancelAll (tasks : List ι) (message : Option String) : List (CancelRequest ι) :=
  tasks.map (fun task => { task, message })

/-- The `return_when` argument of `asyncio.wait()`. -/
inductive ReturnWhen where
  | allCompleted
  | firstCompleted
  | firstException
deriving DecidableEq, Repr

/-- What a suspended `await asyncio.wait(...)` resumes with; `message` is
`e.args[0] if e.args else None` of a delivered `CancelledError`.
-/
inductive WaitResume where
  | returned
  | cancelledError (message : Option String)
deriving DecidableEq, Repr

/-- The tasks that `asyncio.wait()` returns as done. -/
def doneTasks (tasks : List ι) (table : TaskTable ι ε α) : List ι :=
  tasks.filter (fun task => (table task).done)

/-- The tasks that `asyncio.wait()` returns as pending. -/
def pendingTasks (tasks : List ι) (table : TaskTable ι ε α) : List ι :=
  tasks.filter (fun task => !(table task).done)

/-- The stated condition of `asyncio.wait(tasks, return_when=...)`. A cancelled task does not
count as a failed one.
-/
def waitReady (tasks : List ι) (table : TaskTable ι ε α) : ReturnWhen → Bool
  | .allCompleted => tasks.all (fun task => (table task).done)
  | .firstCompleted => tasks.any (fun task => (table task).done)
  | .firstException =>
      tasks.any (fun task => (table task).exception?.isSome)
        || tasks.all (fun task => (table task).done)

/-- A pending task ends in the given state. -/
def complete [DecidableEq ι] (table : TaskTable ι ε α) (task : ι) (state : FutureState ε α)
    : Option (TaskTable ι ε α) :=
  if !(table task).done && state.done then
    some (Function.update table task state)
  else
    none

section
variable [DecidableEq ι]

/-- A completion turns one pending task into a done one. -/
theorem complete_eq_some_iff {table next : TaskTable ι ε α} {task : ι}
    {state : FutureState ε α}
    : complete table task state = some next
      ↔ table task = .pending ∧ state.done = true ∧ next = Function.update table task state := by
  unfold complete
  split
  · rename_i enabled
    simp only [Bool.and_eq_true, Bool.not_eq_true', FutureState.done_eq_false_iff] at enabled
    simp [enabled, eq_comm]
  · rename_i disabled
    simp only [Bool.and_eq_true, Bool.not_eq_true', FutureState.done_eq_false_iff] at disabled
    simp only [reduceCtorEq, false_iff]
    exact fun ⟨pending, done, _⟩ => disabled ⟨pending, done⟩

/-- A done task keeps its state when another one completes. -/
theorem complete_of_done {table next : TaskTable ι ε α} {task other : ι}
    {state : FutureState ε α} (completed : complete table task state = some next)
    (done : (table other).done = true)
    : next other = table other := by
  obtain ⟨pending, _, rfl⟩ := complete_eq_some_iff.mp completed
  have different : other ≠ task := by
    rintro rfl
    simp [pending] at done
  exact Function.update_of_ne different _ _

/-- A completion sets one task and keeps all others. -/
theorem complete_cases {table next : TaskTable ι ε α} {task : ι} {state : FutureState ε α}
    (completed : complete table task state = some next) (other : ι)
    : next other = table other ∨ other = task ∧ next other = state := by
  obtain ⟨_, _, rfl⟩ := complete_eq_some_iff.mp completed
  by_cases same : other = task
  · subst same
    exact Or.inr ⟨rfl, Function.update_self _ _ _⟩
  · exact Or.inl (Function.update_of_ne same _ _)

/-- A wait that is ready stays so when a task completes. -/
theorem waitReady_of_complete {tasks : List ι} {table next : TaskTable ι ε α} {task : ι}
    {state : FutureState ε α} {returnWhen : ReturnWhen}
    (completed : complete table task state = some next)
    (ready : waitReady tasks table returnWhen = true)
    : waitReady tasks next returnWhen = true := by
  have done : ∀ other, (table other).done = true → (next other).done = true := fun other ended =>
    complete_of_done completed ended ▸ ended
  have failed : ∀ other, (table other).exception?.isSome = true
      → (next other).exception?.isSome = true := by
    intro other raised
    have ended : (table other).done = true := by
      cases found : table other <;> simp_all [FutureState.exception?]
    exact complete_of_done completed ended ▸ raised
  cases returnWhen with
  | allCompleted =>
      exact List.all_eq_true.mpr (fun other member =>
        done other (List.all_eq_true.mp ready other member))
  | firstCompleted =>
      obtain ⟨other, member, ended⟩ := List.any_eq_true.mp ready
      exact List.any_eq_true.mpr ⟨other, member, done other ended⟩
  | firstException =>
      rcases Bool.or_eq_true_iff.mp ready with someFailed | allDone
      · obtain ⟨other, member, raised⟩ := List.any_eq_true.mp someFailed
        exact Bool.or_eq_true_iff.mpr
          (Or.inl (List.any_eq_true.mpr ⟨other, member, failed other raised⟩))
      · exact Bool.or_eq_true_iff.mpr (Or.inr (List.all_eq_true.mpr (fun other member =>
          done other (List.all_eq_true.mp allDone other member))))

end

/-- A wait for all tasks is ready once every task is done. -/
theorem waitReady_allCompleted_iff {tasks : List ι} {table : TaskTable ι ε α}
    : waitReady tasks table .allCompleted = true ↔ ∀ task ∈ tasks, (table task).done = true := by
  simp [waitReady]

end Aiodrive
