import Aiodrive.NestableLock.Model
import Aiodrive.Transition.Runs

/-! When the lock of a `NestableLock` stands behind the tasks that are inside: a task that was
created at a positive level never acquires it, and relies on a section of a task it descends from.
-/

namespace Aiodrive.NestableLock

/-- The section that a task has entered first among the open ones. -/
def Task.outermost (number : Nat) (task : Task) : Option Section :=
  task.sections.getLast?.map (Section.mk number)

theorem Task.outermost_of_inside {task : Task} (number : Nat) (inside : task.sections ≠ [])
    : ∃ first, task.outermost number = some { task := number, number := first } := by
  rw [Task.outermost, List.getLast?_eq_some_getLast inside]
  exact ⟨_, rfl⟩

theorem Task.outermost_enters {task : Task} (number entered : Nat) (inside : task.sections ≠ [])
    : (task.enters entered).outermost number = task.outermost number := by
  simp [Task.outermost, Task.enters, List.getLast?_cons, List.getLast?_eq_some_getLast inside]

theorem Task.outermost_exits {task : Task} (number : Nat) (nested : task.sections.tail ≠ [])
    : task.exits.outermost number = task.outermost number := by
  obtain ⟨first, rest, same⟩ := List.exists_cons_of_ne_nil
    (fun empty => nested (by simp [empty]) : task.sections ≠ [])
  rw [same, List.tail_cons] at nested
  simp [Task.outermost, Task.exits, same, List.getLast?_cons,
    List.getLast?_eq_some_getLast nested]

/-- The level of a task counts its own sections and those it has copied from its creator; without
the latter, the lock is acquired for its outermost section.
-/
structure Task.Sound (lock : Option Section) (number : Nat) (task : Task) : Prop where
  creator : ∀ creator, task.creator = some creator → creator < number
  level : (task.sections.length : Int) ≤ task.level
  waiting : task.waiting = true → task.level = 0
  holds
    : task.level = task.sections.length
      → task.sections ≠ []
      → lock = task.outermost number

structure Sound (state : State) : Prop where
  tasks : ∀ number (task : Task), state.tasks[number]? = some task → task.Sound state.lock number
  held
    : ∀ holder,
        state.lock = some holder
        → ∃ task,
            state.tasks[holder.task]? = some task
            ∧ task.level = task.sections.length
            ∧ task.outermost holder.task = some holder

theorem initial_sound : Sound .initial := by
  refine ⟨?_, ?_⟩ <;> simp [State.initial]

/-- A task that is replaced, and the others. -/
theorem getElem?_set_cases {tasks : List Task} {task number : Nat} {replaced found : Task}
    (present : (tasks.set task replaced)[number]? = some found)
    : number = task ∧ found = replaced ∨ number ≠ task ∧ tasks[number]? = some found := by
  by_cases same : number = task
  · subst same
    rw [List.getElem?_set_self'] at present
    obtain ⟨old, -, rfl⟩ := Option.map_eq_some_iff.mp present
    exact .inl ⟨rfl, rfl⟩
  · rw [List.getElem?_set_ne (Ne.symm same)] at present
    exact .inr ⟨same, present⟩

/-- A step of one task that keeps the lock, and the outermost section where that holds it. -/
theorem Sound.replace {state : State} {task entered : Nat} {found replaced : Task}
    (sound : Sound state) (here : state.tasks[task]? = some found)
    (own : replaced.Sound state.lock task)
    (kept
      : found.level = found.sections.length
        → found.sections ≠ []
        → replaced.level = replaced.sections.length
          ∧ replaced.outermost task = found.outermost task)
    : Sound { tasks := state.tasks.set task replaced, lock := state.lock, entered } := by
  refine ⟨fun number other present => ?_, fun holder locked => ?_⟩
  · rcases getElem?_set_cases present with ⟨rfl, rfl⟩ | ⟨-, old⟩
    · exact own
    · exact sound.tasks number other old
  · obtain ⟨held, present, level, outermost⟩ := sound.held holder locked
    by_cases same : holder.task = task
    · subst same
      obtain rfl := Option.some.inj (present.symm.trans here)
      have inside : held.sections ≠ [] := by
        intro empty
        simp [Task.outermost, empty] at outermost
      obtain ⟨levelKept, outermostKept⟩ := kept level inside
      refine ⟨replaced, ?_, levelKept, outermostKept.trans outermost⟩
      exact List.getElem?_set_self (List.getElem?_eq_some_iff.mp here).1
    · refine ⟨held, ?_, level, outermost⟩
      exact (List.getElem?_set_ne (Ne.symm same)).trans present

/-- A task that is created, and those before it. -/
theorem getElem?_concat_cases {tasks : List Task} {number : Nat} {created found : Task}
    (present : (tasks ++ [created])[number]? = some found)
    : tasks[number]? = some found ∨ number = tasks.length ∧ found = created := by
  rcases Nat.lt_trichotomy number tasks.length with before | rfl | after
  · rw [List.getElem?_append_left before] at present
    exact .inl present
  · rw [List.getElem?_concat_length] at present
    exact .inr ⟨rfl, (Option.some.inj present).symm⟩
  · have outside : (tasks ++ [created])[number]? = none :=
      List.getElem?_eq_none (by rw [List.length_append, List.length_singleton]; omega)
    simp [outside] at present

/-- A task that is created has entered nothing, at the level of its creator. -/
theorem Sound.create {state : State} {creator : Option Nat} {level : Int} (sound : Sound state)
    (earlier : ∀ number, creator = some number → number < state.tasks.length) (copied : 0 ≤ level)
    : Sound { state with tasks := state.tasks ++ [.new creator level] } := by
  refine ⟨fun number task present => ?_, fun holder locked => ?_⟩
  · rcases getElem?_concat_cases present with old | ⟨rfl, rfl⟩
    · exact sound.tasks number task old
    · exact ⟨earlier, copied, by simp [Task.new], fun _ inside => absurd rfl inside⟩
  · obtain ⟨held, present, kept⟩ := sound.held holder locked
    refine ⟨held, ?_, kept⟩
    rw [List.getElem?_append_left (List.getElem?_eq_some_iff.mp present).1]
    exact present

/-- A task that enters at a positive level leaves the lock to the section that holds it. -/
theorem Sound.nest {state : State} {task entered : Nat} {found : Task} (sound : Sound state)
    (here : state.tasks[task]? = some found) (nested : found.level ≠ 0)
    : Sound
        { tasks := state.tasks.set task (found.enters state.entered), lock := state.lock,
          entered } := by
  obtain ⟨creator, level, -, holds⟩ := sound.tasks task found here
  have counted : (found.enters state.entered).level
        = (found.enters state.entered).sections.length
      ↔ found.level = found.sections.length := by
    simp [Task.enters]
  refine sound.replace here ⟨creator, ?_, by simp [Task.enters], ?_⟩ ?_
  · simp only [Task.enters, List.length_cons]
    omega
  · intro own _
    have inside : found.sections ≠ [] := by
      intro empty
      exact nested (by simpa [empty] using counted.mp own)
    rw [holds (counted.mp own) inside, Task.outermost_enters _ _ inside]
  · intro own inside
    exact ⟨counted.mpr own, Task.outermost_enters _ _ inside⟩

/-- A task that acquires the lock has been outside, and no other one has held it. -/
theorem Sound.acquire {state : State} {task : Nat} {found : Task} (sound : Sound state)
    (here : state.tasks[task]? = some found) (waiting : found.waiting = true)
    (unlocked : state.lock = none)
    : Sound
        { tasks := state.tasks.set task (found.enters state.entered)
          lock := some { task, number := state.entered }
          entered := state.entered + 1 } := by
  obtain ⟨creator, level, idle, -⟩ := sound.tasks task found here
  have zero := idle waiting
  have outside : found.sections = [] := List.eq_nil_of_length_eq_zero (by omega)
  refine ⟨fun number other present => ?_, fun holder locked => ?_⟩
  · rcases getElem?_set_cases present with ⟨rfl, rfl⟩ | ⟨-, old⟩
    · refine ⟨creator, ?_, by simp [Task.enters], ?_⟩
      · simp [Task.enters, outside, zero]
      · simp [Task.outermost, Task.enters, outside]
    · obtain ⟨creator, level, idle, holds⟩ := sound.tasks number other old
      refine ⟨creator, level, idle, fun own inside => ?_⟩
      obtain ⟨first, outermost⟩ := other.outermost_of_inside number inside
      have locked := holds own inside
      simp [unlocked, outermost] at locked
  · obtain rfl := Option.some.inj locked
    refine ⟨found.enters state.entered, ?_, ?_, ?_⟩
    · exact List.getElem?_set_self (List.getElem?_eq_some_iff.mp here).1
    · simp [Task.enters, outside, zero]
    · simp [Task.outermost, Task.enters, outside]

/-- A task at level 1 has one open section at most. -/
theorem Sound.tail_eq_nil {state : State} {task : Nat} {found : Task} (sound : Sound state)
    (here : state.tasks[task]? = some found) (outermost : found.level = 1)
    : found.sections.tail = [] := by
  have level := (sound.tasks task found here).level
  exact List.eq_nil_of_length_eq_zero (by rw [List.length_tail]; omega)

/-- A task that releases the lock has held it, and no other one has. -/
theorem Sound.release {state : State} {task : Nat} {found : Task} (sound : Sound state)
    (here : state.tasks[task]? = some found) (inside : found.sections ≠ [])
    (outermost : found.level = 1)
    : Sound { state with tasks := state.tasks.set task found.exits, lock := none } := by
  obtain ⟨creator, level, idle, holds⟩ := sound.tasks task found here
  have positive := List.length_pos_of_ne_nil inside
  have alone := sound.tail_eq_nil here outermost
  obtain ⟨first, held⟩ := found.outermost_of_inside task inside
  refine ⟨fun number other present => ?_, by simp⟩
  rcases getElem?_set_cases present with ⟨rfl, rfl⟩ | ⟨different, old⟩
  · refine ⟨creator, ?_, fun waiting => ?_, fun _ inside => absurd alone inside⟩
    · simp [Task.exits, alone, outermost]
    · exact absurd (idle waiting) (by omega)
  · obtain ⟨creator, level, idle, othersHold⟩ := sound.tasks number other old
    refine ⟨creator, level, idle, fun own within => ?_⟩
    obtain ⟨last, outermost⟩ := other.outermost_of_inside number within
    have both := (holds (by omega) inside).symm.trans (othersHold own within)
    rw [held, outermost] at both
    exact absurd (congrArg Section.task (Option.some.inj both)).symm different

/-- A task that exits to a positive level leaves the lock to the section that holds it. -/
theorem Sound.leave {state : State} {task : Nat} {found : Task} (sound : Sound state)
    (here : state.tasks[task]? = some found) (inside : found.sections ≠ [])
    (nested : found.level ≠ 1)
    : Sound { state with tasks := state.tasks.set task found.exits } := by
  obtain ⟨creator, level, idle, holds⟩ := sound.tasks task found here
  have positive := List.length_pos_of_ne_nil inside
  have shorter : found.exits.sections.length = found.sections.length - 1 :=
    List.length_tail
  have counted : found.exits.level = found.exits.sections.length
      ↔ found.level = found.sections.length := by
    rw [shorter]
    simp only [Task.exits]
    omega
  refine sound.replace here ⟨creator, ?_, fun waiting => ?_, fun own still => ?_⟩ ?_
  · rw [shorter]
    simp only [Task.exits]
    omega
  · exact absurd (idle waiting) (by omega)
  · rw [holds (counted.mp own) inside, Task.outermost_exits _ still]
  · intro own _
    have still : found.sections.tail ≠ [] := by
      rw [← List.length_pos_iff, List.length_tail]
      omega
    exact ⟨counted.mpr own, Task.outermost_exits _ still⟩

/-- Every step keeps what holds of the tasks and the lock, by cases on the moves. -/
theorem step_sound {state next : State} {event : Event} (sound : Sound state)
    (stepped : step state event = some next)
    : Sound next := by
  cases move_of_step stepped with
  | appears => exact sound.create (by simp) (Int.le_refl 0)
  | @creates creator found here =>
      have own := sound.tasks creator found here
      refine sound.create ?_ ?_
      · rintro number same
        exact Option.some.inj same ▸ (List.getElem?_eq_some_iff.mp here).1
      · have level := own.level
        omega
  | @waits task found here free =>
      obtain ⟨creator, level, -, holds⟩ := sound.tasks task found here
      exact sound.replace here ⟨creator, level, fun _ => free, holds⟩ (fun same _ => ⟨same, rfl⟩)
  | nests here _ nested => exact sound.nest here nested
  | acquires here waiting unlocked => exact sound.acquire here waiting unlocked
  | @interrupted task found here waiting =>
      obtain ⟨creator, level, -, holds⟩ := sound.tasks task found here
      exact sound.replace here ⟨creator, level, by simp, holds⟩ (fun same _ => ⟨same, rfl⟩)
  | releases here inside outermost => exact sound.release here inside outermost
  | leaves here inside nested => exact sound.leave here inside nested

-----------------------------------------------------------------------------------------
-- Descent
-----------------------------------------------------------------------------------------

def State.CreatedBy (state : State) (task creator : Nat) : Prop :=
  ∃ found, state.tasks[task]? = some found ∧ found.creator = some creator

/-- The task is the other one, or was created by it, in any number of generations. -/
def State.Descends (state : State) : Nat → Nat → Prop :=
  Relation.ReflTransGen state.CreatedBy

/-- A task is created after those it descends from. -/
theorem Sound.descends_le {state : State} {task ancestor : Nat} (sound : Sound state)
    (descends : state.Descends task ancestor)
    : ancestor ≤ task := by
  induction descends with
  | refl => exact Nat.le_refl _
  | tail _ created ih =>
      obtain ⟨found, here, same⟩ := created
      exact Nat.le_trans (Nat.le_of_lt ((sound.tasks _ found here).creator _ same)) ih

/-- A task that is replaced keeps its creator. -/
theorem createdBy_set_iff {state : State} {number task creator : Nat} {found replaced : Task}
    (here : state.tasks[number]? = some found) (same : replaced.creator = found.creator)
    {lock : Option Section} {entered : Nat}
    : State.CreatedBy { tasks := state.tasks.set number replaced, lock, entered } task creator
      ↔ state.CreatedBy task creator := by
  by_cases own : task = number
  · subst own
    have bound := (List.getElem?_eq_some_iff.mp here).1
    simp [State.CreatedBy, List.getElem?_set_self bound, here, same]
  · simp [State.CreatedBy, List.getElem?_set_ne (Ne.symm own)]

theorem descends_set_iff {state : State} {number task ancestor : Nat} {found replaced : Task}
    (here : state.tasks[number]? = some found) (same : replaced.creator = found.creator)
    {lock : Option Section} {entered : Nat}
    : State.Descends { tasks := state.tasks.set number replaced, lock, entered } task ancestor
      ↔ state.Descends task ancestor := by
  have agree : State.CreatedBy { tasks := state.tasks.set number replaced, lock, entered }
      = state.CreatedBy := by
    funext task creator
    exact propext (createdBy_set_iff here same)
  rw [State.Descends, agree, State.Descends]

/-- The creation of a task leaves those before it where they are. -/
theorem descends_concat {state : State} {task ancestor : Nat} {created : Task}
    (descends : state.Descends task ancestor)
    : State.Descends { state with tasks := state.tasks ++ [created] } task ancestor := by
  refine Relation.ReflTransGen.mono ?_ _ _ descends
  rintro task creator ⟨found, here, same⟩
  refine ⟨found, ?_, same⟩
  rw [List.getElem?_append_left (List.getElem?_eq_some_iff.mp here).1]
  exact here

-----------------------------------------------------------------------------------------
-- Exclusion
-----------------------------------------------------------------------------------------

/-- The task is between its `__aenter__` and its `__aexit__`. -/
def State.Inside (state : State) (task : Nat) : Prop :=
  ∃ found, state.tasks[task]? = some found ∧ found.sections ≠ []

def State.Open (state : State) (opened : Section) : Prop :=
  ∃ found, state.tasks[opened.task]? = some found ∧ opened.number ∈ found.sections

/-- The lock is held for the task: by it, or by a task it descends from. -/
def State.HeldFor (state : State) (task : Nat) : Prop :=
  ∃ holder, state.lock = some holder ∧ state.Descends task holder.task

/-- The lock excludes those unrelated to the tasks inside: it is held by an open section of each
of them, or of a task that it descends from.
-/
def Excludes (state : State) : Prop :=
  ∀ task,
    state.Inside task
    → ∃ holder,
        state.lock = some holder ∧ state.Open holder ∧ state.Descends task holder.task

/-- A task that enters at a level it has copied does so while the lock is held by a task it
descends from; and a section that has acquired the lock is exited when no other task is inside.
-/
def Covered (state : State) : Event → Prop
  | .aenter task =>
      ∀ found,
        state.tasks[task]? = some found
        → found.level ≠ 0
        → found.sections = []
        → state.HeldFor task
  | .aexit task =>
      ∀ found,
        state.tasks[task]? = some found
        → found.level = 1
        → ∀ other, state.Inside other → other = task
  | .creates _ | .acquires _ | .interrupted _ => True

/-- The section that holds the lock is open. -/
theorem Sound.excludes_iff {state : State} (sound : Sound state)
    : Excludes state ↔ ∀ task, state.Inside task → state.HeldFor task := by
  refine forall_congr' (fun task => imp_congr_right (fun _ => exists_congr (fun holder => ?_)))
  refine and_congr_right (fun locked => and_iff_right ?_)
  obtain ⟨found, here, -, outermost⟩ := sound.held holder locked
  obtain ⟨number, last, same⟩ := Option.map_eq_some_iff.mp outermost
  have numbered : number = holder.number := congrArg Section.number same
  exact ⟨found, here, numbered ▸ List.mem_of_getLast? last⟩

/-- Two tasks that are both inside descend from one task, or one from the other. -/
theorem Excludes.related {state : State} {first second : Nat} (excludes : Excludes state)
    (firstInside : state.Inside first) (secondInside : state.Inside second)
    : ∃ ancestor, state.Descends first ancestor ∧ state.Descends second ancestor := by
  obtain ⟨holder, locked, -, firstDescends⟩ := excludes first firstInside
  obtain ⟨other, same, -, secondDescends⟩ := excludes second secondInside
  obtain rfl := Option.some.inj (locked.symm.trans same)
  exact ⟨holder.task, firstDescends, secondDescends⟩

theorem inside_set_cases {state : State} {number task : Nat} {replaced : Task}
    {lock : Option Section} {entered : Nat}
    (inside
      : State.Inside { tasks := state.tasks.set number replaced, lock, entered } task)
    : task = number ∧ replaced.sections ≠ [] ∨ task ≠ number ∧ state.Inside task := by
  obtain ⟨found, here, within⟩ := inside
  rcases getElem?_set_cases here with ⟨rfl, rfl⟩ | ⟨different, old⟩
  · exact .inl ⟨rfl, within⟩
  · exact .inr ⟨different, found, old, within⟩

theorem inside_set_of_ne {state : State} {number task : Nat} {replaced : Task}
    {lock : Option Section} {entered : Nat} (inside : state.Inside task)
    (different : task ≠ number)
    : State.Inside { tasks := state.tasks.set number replaced, lock, entered } task := by
  obtain ⟨found, here, within⟩ := inside
  exact ⟨found, (List.getElem?_set_ne (Ne.symm different)).trans here, within⟩

/-- The replacement of a task does not change for whom the lock is held. -/
theorem heldFor_set_iff {state : State} {number task : Nat} {found replaced : Task}
    (here : state.tasks[number]? = some found) (same : replaced.creator = found.creator)
    {entered : Nat}
    : State.HeldFor { tasks := state.tasks.set number replaced, lock := state.lock, entered } task
      ↔ state.HeldFor task :=
  exists_congr (fun _ => and_congr_right (fun _ => descends_set_iff here same))

/-- A task that is created is outside, and the lock is held for those before it as it was. -/
theorem excludes_concat {state : State} {creator : Option Nat} {level : Int}
    (covered : ∀ task, state.Inside task → state.HeldFor task) (task : Nat)
    (inside : State.Inside { state with tasks := state.tasks ++ [.new creator level] } task)
    : State.HeldFor { state with tasks := state.tasks ++ [.new creator level] } task := by
  obtain ⟨found, here, within⟩ := inside
  rcases getElem?_concat_cases here with old | ⟨-, rfl⟩
  · obtain ⟨holder, locked, descends⟩ := covered task ⟨found, old, within⟩
    exact ⟨holder, locked, descends_concat descends⟩
  · exact absurd rfl within

/-- A step of one task that keeps the lock, and is covered where the task is inside after it. -/
theorem excludes_set {state : State} {number entered : Nat} {found replaced : Task}
    (covered : ∀ task, state.Inside task → state.HeldFor task)
    (here : state.tasks[number]? = some found) (same : replaced.creator = found.creator)
    (own : replaced.sections ≠ [] → state.HeldFor number) (task : Nat)
    (inside
      : State.Inside { tasks := state.tasks.set number replaced, lock := state.lock, entered }
          task)
    : State.HeldFor { tasks := state.tasks.set number replaced, lock := state.lock, entered }
        task := by
  rw [heldFor_set_iff here same]
  rcases inside_set_cases inside with ⟨rfl, within⟩ | ⟨-, old⟩
  · exact own within
  · exact covered task old

/-- A step that is covered keeps the exclusion, by cases on the moves. -/
theorem step_excludes {state next : State} {event : Event} (sound : Sound state)
    (excludes : Excludes state) (met : Covered state event)
    (stepped : step state event = some next)
    : Excludes next := by
  rw [(step_sound sound stepped).excludes_iff]
  rw [sound.excludes_iff] at excludes
  cases move_of_step stepped with
  | appears => exact excludes_concat excludes
  | creates here => exact excludes_concat excludes
  | @waits task found here free =>
      exact excludes_set excludes here rfl (fun within => excludes task ⟨found, here, within⟩)
  | @nests task found here running nested =>
      refine excludes_set excludes here rfl (fun _ => ?_)
      by_cases outside : found.sections = []
      · exact met found here nested outside
      · exact excludes task ⟨found, here, outside⟩
  | @acquires task found here waiting unlocked =>
      intro other inside
      rcases inside_set_cases inside with ⟨rfl, -⟩ | ⟨-, old⟩
      · exact ⟨_, rfl, .refl⟩
      · obtain ⟨holder, locked, -⟩ := excludes other old
        simp [unlocked] at locked
  | @interrupted task found here waiting =>
      exact excludes_set excludes here rfl (fun within => excludes task ⟨found, here, within⟩)
  | @releases task found here inside outermost =>
      intro other within
      rcases inside_set_cases within with ⟨rfl, still⟩ | ⟨different, old⟩
      · exact absurd (sound.tail_eq_nil here outermost) still
      · exact absurd (met found here outermost other old) different
  | @leaves task found here inside nested =>
      exact excludes_set excludes here rfl (fun _ => excludes task ⟨found, here, inside⟩)

/-- A step that is not covered breaks the exclusion, by cases on the moves. -/
theorem step_not_excludes {state next : State} {event : Event} (unmet : ¬Covered state event)
    (stepped : step state event = some next)
    : ¬Excludes next := by
  intro excludes
  cases move_of_step stepped with
  | appears | creates _ | acquires _ _ _ | interrupted _ _ => exact unmet trivial
  | @waits task found here free =>
      refine unmet (fun other present nested => ?_)
      obtain rfl := Option.some.inj (here.symm.trans present)
      exact absurd free nested
  | @nests task found here running nested =>
      refine unmet (fun _ _ _ _ => ?_)
      have bound := (List.getElem?_eq_some_iff.mp here).1
      obtain ⟨holder, locked, -, descends⟩ := excludes task
        ⟨_, List.getElem?_set_self bound, List.cons_ne_nil _ _⟩
      exact ⟨holder, locked, (descends_set_iff here (by rfl)).mp descends⟩
  | @releases task found here inside outermost =>
      refine unmet (fun _ _ _ other within => ?_)
      by_contra different
      obtain ⟨holder, locked, -⟩ := excludes other (inside_set_of_ne within different)
      simp at locked
  | @leaves task found here inside nested =>
      refine unmet (fun other present outermost => ?_)
      obtain rfl := Option.some.inj (here.symm.trans present)
      exact absurd outermost nested

/-- What the covered steps keep. -/
structure Guarded (state : State) : Prop where
  sound : Sound state
  excludes : Excludes state

theorem initial_guarded : Guarded .initial := by
  refine ⟨initial_sound, ?_⟩
  rintro task ⟨found, here, -⟩
  simp [State.initial] at here

theorem Guarded.step {state next : State} {event : Event} (guarded : Guarded state)
    (met : Covered state event) (stepped : step state event = some next)
    : Guarded next :=
  ⟨step_sound guarded.sound stepped, step_excludes guarded.sound guarded.excludes met stepped⟩

/-- The lock excludes unrelated tasks in every state of a run exactly when each step of it is
covered.
-/
theorem nestable_lock_excludes_iff {events : List Event} {final : State}
    (reached : Transition.run step .initial events = some final)
    : (∀ visited middle,
        visited.IsPrefix events
        → Transition.run step .initial visited = some middle
        → Excludes middle)
      ↔ Transition.Meets step Covered .initial events :=
  Transition.good_iff_meets (fun _ => Guarded.excludes)
    (fun _ _ _ guarded met stepped => guarded.step met stepped)
    (fun _ _ _ _ unmet stepped => step_not_excludes unmet stepped) initial_guarded reached

/-- A task enters within the section in which it was created. -/
theorem nestable_lock_excludes_child
    : ∃ (events : List Event) (final : State),
        Transition.run step .initial events = some final
        ∧ final.Inside 1
        ∧ Excludes final := by
  let events : List Event :=
    [.creates none, .aenter 0, .acquires 0, .creates (some 0), .aenter 1]
  have reached : Transition.run step .initial events = some _ := rfl
  have met : Transition.Meets step Covered .initial events := by
    rw [Transition.meets_cons_iff rfl, Transition.meets_cons_iff rfl,
      Transition.meets_cons_iff rfl, Transition.meets_cons_iff rfl, Transition.meets_cons_iff rfl]
    refine ⟨trivial, ?_, trivial, trivial, fun _ _ _ _ => ?_, trivial⟩
    · intro found here nested
      obtain rfl := Option.some.inj here
      exact absurd rfl nested
    · exact ⟨_, rfl, .single ⟨_, rfl, rfl⟩⟩
  refine ⟨events, _, reached, ⟨_, rfl, List.cons_ne_nil _ _⟩, ?_⟩
  exact (nestable_lock_excludes_iff reached).mpr met events _ (List.prefix_refl _) reached

/-- A task that outlives the section in which it was created enters beside one that is not related
to it.
-/
theorem nestable_lock_admits_unrelated
    : ∃ (events : List Event) (final : State),
        Transition.run step .initial events = some final
        ∧ final.Inside 1
        ∧ final.Inside 2
        ∧ (¬∃ ancestor, final.Descends 1 ancestor ∧ final.Descends 2 ancestor)
        ∧ ¬Excludes final := by
  let events : List Event :=
    [.creates none, .aenter 0, .acquires 0, .creates (some 0), .aexit 0, .creates none, .aenter 2,
      .acquires 2, .aenter 1]
  obtain ⟨final, reached, first, second, alone⟩
      : ∃ final,
          Transition.run step .initial events = some final
          ∧ final.Inside 1
          ∧ final.Inside 2
          ∧ ∀ creator, ¬final.CreatedBy 2 creator := by
    refine ⟨_, rfl, ⟨_, rfl, List.cons_ne_nil _ _⟩, ⟨_, rfl, List.cons_ne_nil _ _⟩, ?_⟩
    rintro creator ⟨found, here, same⟩
    obtain rfl := Option.some.inj here
    contradiction
  have sound : Sound final :=
    Transition.run_preserves (fun _ _ _ => step_sound) initial_sound reached
  have unrelated : ¬∃ ancestor, final.Descends 1 ancestor ∧ final.Descends 2 ancestor := by
    rintro ⟨ancestor, below, own⟩
    rcases Relation.ReflTransGen.cases_head own with rfl | ⟨creator, created, -⟩
    · exact absurd (sound.descends_le below) (by decide)
    · exact alone creator created
  exact ⟨events, final, reached, first, second, unrelated,
    fun excludes => unrelated (excludes.related first second)⟩

/-- A task that is inside can exit: the lock that it releases is acquired. -/
theorem Sound.aexit_isSome {state : State} {task : Nat} {found : Task} (sound : Sound state)
    (here : state.tasks[task]? = some found) (inside : found.sections ≠ [])
    : (step state (.aexit task)).isSome = true := by
  obtain ⟨-, level, idle, holds⟩ := sound.tasks task found here
  have positive := List.length_pos_of_ne_nil inside
  have running : found.waiting = false := by
    by_contra waiting
    exact absurd (idle (by simpa using waiting)) (by omega)
  have present : state.find? task false = some found :=
    State.find?_eq_some_iff.mpr ⟨here, running⟩
  have entered : ¬found.sections.isEmpty = true := by simpa using inside
  simp only [step, present, Option.bind_some, if_neg entered]
  split
  · obtain ⟨first, outermost⟩ := found.outermost_of_inside task inside
    simp [holds (by omega) inside, outermost]
  · rfl

end Aiodrive.NestableLock
