import Aiodrive.TaskGroup.Exit

/-! A `TaskGroup` whose body did not return is left once its tasks have ended. -/

namespace Aiodrive.TaskGroup

variable {ε : Type*} {count : Nat} {state : State ε}

/-- What the loop does for the group: tasks end, their done callbacks run, and `__aexit__` goes
on.
-/
def Event.isOwn : Event ε → Bool
  | childEnds _ _ | childNoticed _ | resumes => true
  | creates | cancels | interrupts | bodyEnds _ => false

/-- The turns that `__aexit__` still has to take by itself. -/
def Place.turns : Place ε → Nat
  | exiting _ _ .cancelled => 2
  | exiting _ _ _ => 1
  | inside | left _ _ => 0

/-- A task ends once, and is noticed once. -/
def State.stepsLeft (state : State ε) : Nat :=
  state.children.countP (fun child => !child.state.done)
    + state.children.countP (fun child => child.held) + state.place.turns

/-- `__aexit__` of a body that did not return, or past it. -/
def Place.isLeaving : Place ε → Prop
  | inside => False
  | exiting ending _ _ => ending ≠ .returned
  | left _ _ => True

/-- An aborted group that is being left. -/
structure Leaving (count : Nat) (state : State ε) : Prop extends Sound count state where
  aborting : state.aborting = true
  leaves : state.place.isLeaving

/-- An entry that loses a property is one less of those that have it. -/
theorem countP_set_lt {α : Type*} {holds : α → Bool} {before after : α} {list : List α}
    {index : Nat}
    (here : list[index]? = some before) (held : holds before = true) (lost : holds after = false)
    : (list.set index after).countP holds < list.countP holds := by
  obtain ⟨within, same⟩ := List.getElem?_eq_some_iff.mp here
  have inList : 0 < list.countP holds :=
    List.countP_pos_iff.mpr ⟨before, List.mem_of_getElem? here, held⟩
  rw [List.countP_set within, same]
  simp only [held, lost, Bool.false_eq_true, ↓reduceIte]
  omega

/-- One that keeps it changes nothing. -/
theorem countP_set_eq {α : Type*} {holds : α → Bool} {before after : α} {list : List α}
    {index : Nat}
    (here : list[index]? = some before) (kept : holds after = holds before)
    : (list.set index after).countP holds = list.countP holds := by
  obtain ⟨within, same⟩ := List.getElem?_eq_some_iff.mp here
  rw [List.countP_set within, same, kept]
  have inList : holds before = true → 0 < list.countP holds := fun held =>
    List.countP_pos_iff.mpr ⟨before, List.mem_of_getElem? here, held⟩
  split
  · rename_i held
    have some := inList held
    omega
  · omega

theorem turns_complete_le (place : Place ε) : place.complete.turns ≤ place.turns := by
  unfold Place.complete
  split
  · exact Nat.le_refl 1
  · exact Nat.le_refl _

/-- A loop that waits again, or ends. -/
theorem turns_wait (state : State ε) (ending : Ending ε) (propagates : Bool)
    : (state.wait ending propagates).place.turns = state.holds.toNat := by
  unfold State.wait
  split
  · rename_i holds
    simp [Place.turns, holds]
  · rename_i none
    simp only [Bool.not_eq_true] at none
    unfold State.conclude
    dsimp only
    split
    · simp [Place.turns, none]
    · split <;> simp [Place.turns, none]

theorem isLeaving_complete (place : Place ε) : place.complete.isLeaving ↔ place.isLeaving := by
  unfold Place.complete
  split <;> rfl

theorem isLeaving_wait {ending : Ending ε} (raises : ending ≠ .returned) (propagates : Bool)
    : (state.wait ending propagates).place.isLeaving := by
  unfold State.wait
  split
  · exact raises
  · unfold State.conclude
    dsimp only
    split
    · exact trivial
    · split <;> exact trivial

/-- A failure of an aborted group is no more than one error more. -/
theorem onTaskDone_of_aborting (aborting : state.aborting = true) (index : Nat) (child : Child ε)
    : (state.onTaskDone index child).children = (state.discard index child).children
      ∧ (state.onTaskDone index child).aborting = true
      ∧ ((state.onTaskDone index child).place = state.place
        ∨ (state.onTaskDone index child).place = state.place.complete) := by
  have place
      : (state.discard index child).complete.place = state.place
        ∨ (state.discard index child).complete.place = state.place.complete := by
    rw [complete_eq]
    dsimp only
    split
    · exact .inl rfl
    · exact .inr rfl
  have kept : (state.discard index child).complete.aborting = true := by
    rw [complete_eq]
    exact aborting
  have children
      : (state.discard index child).complete.children = (state.discard index child).children := by
    rw [complete_eq]
  unfold State.onTaskDone
  split
  · simp only [State.fail, kept, Bool.true_or, ↓reduceIte]
    exact ⟨children, trivial, place⟩
  · exact ⟨children, kept, place⟩

/-- Each step of the loop leaves less to do. -/
theorem Leaving.step {next : State ε} {event : Event ε} (leaving : Leaving count state)
    (own : event.isOwn = true) (stepped : TaskGroup.step state event = some next)
    : Leaving (count + requests [event]) next ∧ next.stepsLeft < state.stepsLeft := by
  have sound := leaving.toSound.step stepped
  cases event with
  | creates | cancels | interrupts | bodyEnds => contradiction
  | childEnds index result =>
      simp only [TaskGroup.step] at stepped
      split at stepped
      · rename_i child here
        simp only [Option.ite_none_left_eq_some, Bool.or_eq_true, Bool.not_eq_true', not_or,
          Bool.not_eq_true, Bool.not_eq_false, Option.some.injEq] at stepped
        obtain ⟨⟨pending, done⟩, rfl⟩ := stepped
        refine ⟨⟨sound, leaving.aborting, leaving.leaves⟩, ?_⟩
        have fewer
            : (state.children.set index { child with state := result }).countP
                (fun child => !child.state.done)
              < state.children.countP (fun child => !child.state.done) :=
          countP_set_lt here (by simp [pending]) (by simp [done])
        have same
            : (state.children.set index { child with state := result }).countP
                (fun child => child.held)
              = state.children.countP (fun child => child.held) :=
          countP_set_eq here rfl
        simp only [State.stepsLeft]
        omega
      · contradiction
  | childNoticed index =>
      simp only [TaskGroup.step] at stepped
      split at stepped
      · rename_i child here
        simp only [Option.ite_none_right_eq_some, Bool.and_eq_true, Option.some.injEq] at stepped
        obtain ⟨⟨held, done⟩, rfl⟩ := stepped
        obtain ⟨children, aborting, place⟩ := onTaskDone_of_aborting leaving.aborting index child
        have leaves : (state.onTaskDone index child).place.isLeaving := by
          rcases place with same | completed
          · exact same ▸ leaving.leaves
          · exact completed ▸ (isLeaving_complete _).mpr leaving.leaves
        refine ⟨⟨sound, aborting, leaves⟩, ?_⟩
        have turns : (state.onTaskDone index child).place.turns ≤ state.place.turns := by
          rcases place with same | completed
          · exact Nat.le_of_eq (congrArg _ same)
          · exact completed ▸ turns_complete_le _
        have fewer
            : (state.discard index child).children.countP (fun child => child.held)
              < state.children.countP (fun child => child.held) :=
          countP_set_lt here held rfl
        have same
            : (state.discard index child).children.countP (fun child => !child.state.done)
              = state.children.countP (fun child => !child.state.done) :=
          countP_set_eq here rfl
        simp only [State.stepsLeft, children]
        omega
      · contradiction
  | resumes =>
      simp only [TaskGroup.step] at stepped
      split at stepped
      · rename_i ending propagates _ here
        obtain rfl := Option.some.inj stepped
        have raises : ending ≠ .returned := by simpa [here, Place.isLeaving] using leaving.leaves
        obtain ⟨children, aborting, -⟩ := wait_frame state ending propagates
        obtain ⟨-, -, -, -, told⟩ := here ▸ leaving.exits
        have none := told raises rfl
        refine ⟨⟨sound, aborting.trans leaving.aborting, isLeaving_wait raises _⟩, ?_⟩
        have turns := turns_wait state ending propagates
        have before : state.place.turns = 1 := here ▸ rfl
        simp only [State.stepsLeft, children, turns, none, before, Bool.toNat_false]
        omega
      · rename_i ending propagates here
        have raises : ending ≠ .returned := by simpa [here, Place.isLeaving] using leaving.leaves
        obtain ⟨children, aborting, -⟩ := wait_frame state ending propagates
        simp only [State.catchCancelled, leaving.aborting, ↓reduceIte] at stepped
        obtain rfl := Option.some.inj stepped
        refine ⟨⟨sound, aborting.trans leaving.aborting, isLeaving_wait raises _⟩, ?_⟩
        have few := Bool.toNat_le state.holds
        have turns := turns_wait state ending propagates
        have before : state.place.turns = 2 := here ▸ rfl
        simp only [State.stepsLeft, children, turns, before]
        omega
      all_goals contradiction

/-- A group that is not left has a task that goes on, or one whose end is not noticed yet, or
resumes.
-/
theorem Leaving.exists_event (leaving : Leaving count state)
    : state.place.isLeft = true
      ∨ ∃ event, event.isOwn = true ∧ (TaskGroup.step state event).isSome = true := by
  cases here : state.place with
  | inside =>
      have leaves := leaving.leaves
      simp [here, Place.isLeaving] at leaves
  | left ending exit => exact .inl rfl
  | exiting ending propagates waiter =>
      right
      cases waiter with
      | success | cancelled => exact ⟨.resumes, rfl, by simp [TaskGroup.step, here]⟩
      | exception error => exact error.elim
      | pending =>
          obtain ⟨-, -, -, waits, -⟩ := here ▸ leaving.exits
          obtain ⟨child, inGroup, held⟩ := List.any_eq_true.mp (waits rfl)
          obtain ⟨index, there⟩ := List.getElem?_of_mem inGroup
          cases done : child.state.done with
          | true =>
              exact ⟨.childNoticed index, rfl, by simp [TaskGroup.step, there, held, done]⟩
          | false =>
              refine ⟨.childEnds index (.success ()), rfl, ?_⟩
              have done_success : (.success () : FutureState ε Unit).done = true := rfl
              simp [TaskGroup.step, there, done, done_success]

/-- It is left once its tasks have ended. -/
theorem Leaving.terminates (leaving : Leaving count state)
    : Transition.Terminates TaskGroup.step (fun event : Event ε => event.isOwn = true)
        (fun state => state.place.isLeft = true) state := by
  refine Transition.terminates_of_measure
    (P := fun state => ∃ count, Leaving count state) State.stepsLeft ?_ ?_ ?_ ⟨count, leaving⟩
  · rintro state event next ⟨count, leaving⟩ own stepped
    exact ⟨_, (leaving.step own stepped).1⟩
  · rintro state event next ⟨count, leaving⟩ own stepped
    exact (leaving.step own stepped).2
  · rintro state ⟨count, leaving⟩
    exact leaving.exists_event

end Aiodrive.TaskGroup
