import Mathlib.Data.List.Basic
import Mathlib.Data.Int.Init
import Mathlib.Logic.Relation

/-! `NestableLock` of `modules/nestable_lock.py`, used by tasks that each have a context of their
own, a copy of their creator's. Tasks and sections are numbered in the order in which they begin.
-/

namespace Aiodrive.NestableLock

/-- A task, with the value of the `ContextVar` in its context, and the sections that it has entered
and not exited, from the innermost on. It may be waiting at `await self._lock.acquire()`.
-/
structure Task where
  creator : Option Nat
  level : Int
  waiting : Bool
  sections : List Nat
deriving DecidableEq, Repr

structure Section where
  task : Nat
  number : Nat
deriving DecidableEq, Repr

/-- The tasks, and the section that has acquired the `asyncio.Lock`, if one has. -/
structure State where
  tasks : List Task
  lock : Option Section
  entered : Nat
deriving DecidableEq, Repr

def State.initial : State := { tasks := [], lock := none, entered := 0 }

/-- What can happen: a task is created, by another one or from outside; a task calls `__aenter__`;
it acquires the lock that it waits for, or is cancelled there; it calls `__aexit__`.
-/
inductive Event where
  | creates (creator : Option Nat)
  | aenter (task : Nat)
  | acquires (task : Nat)
  | interrupted (task : Nat)
  | aexit (task : Nat)
deriving DecidableEq, Repr

/-- A task that is waiting for the lock, or that is not. -/
def State.find? (state : State) (task : Nat) (waiting : Bool) : Option Task :=
  state.tasks[task]?.filter (fun found => found.waiting == waiting)

theorem State.find?_eq_some_iff {state : State} {task : Nat} {waiting : Bool} {found : Task}
    : state.find? task waiting = some found
      ↔ state.tasks[task]? = some found ∧ found.waiting = waiting := by
  simp [State.find?, Option.filter_eq_some_iff]

/-- A task with a copy of its creator's context. -/
def Task.new (creator : Option Nat) (level : Int) : Task :=
  { creator, level, waiting := false, sections := [] }

/-- `self._context_var.set(level + 1)` at the end of `__aenter__`. -/
def Task.enters (task : Task) (number : Nat) : Task :=
  { task with level := task.level + 1, waiting := false, sections := number :: task.sections }

/-- `self._context_var.set(level - 1)` at the end of `__aexit__`. -/
def Task.exits (task : Task) : Task :=
  { task with level := task.level - 1, sections := task.sections.tail }

def step (state : State) : Event → Option State
  | .creates none => some { state with tasks := state.tasks ++ [.new none 0] }
  | .creates (some creator) =>
      (state.find? creator false).map (fun found =>
        { state with tasks := state.tasks ++ [.new (some creator) found.level] })
  | .aenter task =>
      (state.find? task false).map (fun found =>
        if found.level = 0 then
          { state with tasks := state.tasks.set task { found with waiting := true } }
        else
          { state with
            tasks := state.tasks.set task (found.enters state.entered)
            entered := state.entered + 1 })
  | .acquires task =>
      (state.find? task true).bind (fun found =>
        if state.lock.isNone then
          some
            { tasks := state.tasks.set task (found.enters state.entered)
              lock := some { task, number := state.entered }
              entered := state.entered + 1 }
        else
          none)
  | .interrupted task =>
      (state.find? task true).map (fun found =>
        { state with tasks := state.tasks.set task { found with waiting := false } })
  | .aexit task =>
      (state.find? task false).bind (fun found =>
        if found.sections.isEmpty then
          none
        else if found.level = 1 then
          -- `Lock.release()` raises where the lock is not acquired
          state.lock.map (fun _ =>
            { state with tasks := state.tasks.set task found.exits, lock := none })
        else
          some { state with tasks := state.tasks.set task found.exits })

/-- The steps, one constructor for each branch. -/
inductive Move (state : State) : Event → State → Prop where
  | appears : Move state (.creates none) { state with tasks := state.tasks ++ [.new none 0] }
  | creates {creator : Nat} {found : Task} (here : state.tasks[creator]? = some found)
    : Move state (.creates (some creator))
        { state with tasks := state.tasks ++ [.new (some creator) found.level] }
  | waits {task : Nat} {found : Task} (here : state.tasks[task]? = some found)
    (free : found.level = 0)
    : Move state (.aenter task)
        { state with tasks := state.tasks.set task { found with waiting := true } }
  | nests {task : Nat} {found : Task} (here : state.tasks[task]? = some found)
    (running : found.waiting = false) (nested : found.level ≠ 0)
    : Move state (.aenter task)
        { state with
          tasks := state.tasks.set task (found.enters state.entered)
          entered := state.entered + 1 }
  | acquires {task : Nat} {found : Task} (here : state.tasks[task]? = some found)
    (waiting : found.waiting = true) (unlocked : state.lock = none)
    : Move state (.acquires task)
        { tasks := state.tasks.set task (found.enters state.entered)
          lock := some { task, number := state.entered }
          entered := state.entered + 1 }
  | interrupted {task : Nat} {found : Task} (here : state.tasks[task]? = some found)
    (waiting : found.waiting = true)
    : Move state (.interrupted task)
        { state with tasks := state.tasks.set task { found with waiting := false } }
  | releases {task : Nat} {found : Task} (here : state.tasks[task]? = some found)
    (inside : found.sections ≠ []) (outermost : found.level = 1)
    : Move state (.aexit task)
        { state with tasks := state.tasks.set task found.exits, lock := none }
  | leaves {task : Nat} {found : Task} (here : state.tasks[task]? = some found)
    (inside : found.sections ≠ []) (nested : found.level ≠ 1)
    : Move state (.aexit task) { state with tasks := state.tasks.set task found.exits }

/-- Every step is one of the moves. -/
theorem move_of_step {state next : State} {event : Event} (stepped : step state event = some next)
    : Move state event next := by
  cases event with
  | creates creator =>
      cases creator with
      | none => exact Option.some.inj stepped ▸ .appears
      | some creator =>
          obtain ⟨found, present, rfl⟩ := Option.map_eq_some_iff.mp stepped
          exact .creates (State.find?_eq_some_iff.mp present).1
  | aenter task =>
      obtain ⟨found, present, rfl⟩ := Option.map_eq_some_iff.mp stepped
      obtain ⟨here, running⟩ := State.find?_eq_some_iff.mp present
      split
      · rename_i free
        exact .waits here free
      · rename_i nested
        exact .nests here running nested
  | acquires task =>
      obtain ⟨found, present, stepped⟩ := Option.bind_eq_some_iff.mp stepped
      obtain ⟨here, waiting⟩ := State.find?_eq_some_iff.mp present
      obtain ⟨unlocked, same⟩ := Option.ite_none_right_eq_some.mp stepped
      exact Option.some.inj same ▸ .acquires here waiting (Option.isNone_iff_eq_none.mp unlocked)
  | interrupted task =>
      obtain ⟨found, present, rfl⟩ := Option.map_eq_some_iff.mp stepped
      obtain ⟨here, waiting⟩ := State.find?_eq_some_iff.mp present
      exact .interrupted here waiting
  | aexit task =>
      obtain ⟨found, present, stepped⟩ := Option.bind_eq_some_iff.mp stepped
      obtain ⟨here, -⟩ := State.find?_eq_some_iff.mp present
      obtain ⟨inside, stepped⟩ := Option.ite_none_left_eq_some.mp stepped
      have entered : found.sections ≠ [] := by simpa using inside
      split at stepped
      · rename_i outermost
        obtain ⟨holder, -, rfl⟩ := Option.map_eq_some_iff.mp stepped
        exact .releases here entered outermost
      · rename_i nested
        exact Option.some.inj stepped ▸ .leaves here entered nested

end Aiodrive.NestableLock
