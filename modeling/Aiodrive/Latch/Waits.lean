import Aiodrive.Latch.Model

/-! What a task that waits on a latch learns of it: every toggle since its call, however short the
latch keeps its new value.
-/

namespace Aiodrive.Latch

variable {κ : Type*} [DecidableEq κ]

-----------------------------------------------------------------------------------------
-- What a step can do
-----------------------------------------------------------------------------------------

/-- The steps, one constructor for each branch. -/
inductive Move (state : State κ) : Event κ → State κ → Prop where
  | toggles (value : Bool)
    : Move state (.toggle value) { state with latch := state.latch.toggle value }
  | calls {task : κ} (method : Method)
    (free : ∀ method inner outer, state.tasks task ≠ .suspended method inner outer)
    : Move state (.call task method) (state.setPlace task (state.latch.call method))
  | wakes {task : κ} {method : Method} {inner : Nat}
    (here : state.tasks task = .suspended method inner .pending)
    (resolved : inner < state.latch.future)
    : Move state (.innerDone task) (state.setPlace task (.suspended method inner (.success ())))
  | returns {task : κ} {method : Method} {inner : Nat}
    (here : state.tasks task = .suspended method inner (.success ()))
    : Move state (.resume task) (state.setPlace task (.returned (method.result state.latch)))
  | throws {task : κ} {method : Method} {inner : Nat}
    (here : state.tasks task = .suspended method inner .cancelled)
    : Move state (.resume task) (state.setPlace task .cancelled)
  | cancels {task : κ} {method : Method} {inner : Nat} {outer : FutureState Empty Unit}
    (here : state.tasks task = .suspended method inner outer)
    : Move state (.cancel task) (state.setPlace task (.suspended method inner .cancelled))

theorem state_done_iff (latch : Latch) (future : Nat)
    : (latch.state future).done = true ↔ future < latch.future := by
  unfold state
  split <;> simp_all

theorem move_of_step {state next : State κ} {event : Event κ}
    (stepped : step state event = some next)
    : Move state event next := by
  cases event with
  | toggle value => exact Option.some.inj stepped ▸ .toggles value
  | call task method =>
      simp only [step] at stepped
      split at stepped
      · contradiction
      all_goals exact Option.some.inj stepped ▸ .calls method (by simp [*])
  | innerDone task =>
      simp only [step] at stepped
      split at stepped
      · rename_i method inner here
        split at stepped
        · rename_i done
          have resolved := (state_done_iff _ _).mp done
          rw [show state.latch.state inner = .success () from if_pos resolved] at stepped
          exact Option.some.inj stepped ▸ .wakes here resolved
        · contradiction
      all_goals contradiction
  | resume task =>
      simp only [step] at stepped
      split at stepped
      · rename_i here
        exact Option.some.inj stepped ▸ .returns here
      · rename_i here
        exact Option.some.inj stepped ▸ .throws here
      all_goals contradiction
  | cancel task =>
      simp only [step] at stepped
      split at stepped
      · rename_i here
        exact Option.some.inj stepped ▸ .cancels here
      all_goals contradiction

@[simp] theorem setPlace_latch (state : State κ) (task : κ) (place : Place)
    : (state.setPlace task place).latch = state.latch :=
  rfl

@[simp] theorem setPlace_tasks (state : State κ) (task other : κ) (place : Place)
    : (state.setPlace task place).tasks other
      = if other = task then place else state.tasks other := by
  simp [State.setPlace, Function.update_apply]

/-- A task is moved by its own events only. -/
theorem tasks_of_step {state next : State κ} {event : Event κ} {task : κ}
    (stepped : step state event = some next) (other : event.task? ≠ some task)
    : next.tasks task = state.tasks task := by
  cases move_of_step stepped with
  | toggles value => rfl
  | _ =>
      simp only [Event.task?, ne_eq, Option.some.injEq] at other
      simp [Ne.symm other]

-----------------------------------------------------------------------------------------
-- The futures of a latch count its changes
-----------------------------------------------------------------------------------------

/-- A latch is set exactly at its futures of an odd number. -/
def Alternates (latch : Latch) : Prop := latch.set = decide (latch.future % 2 = 1)

theorem Alternates.toggle {latch : Latch} (alternates : Alternates latch) (value : Bool)
    : Alternates (latch.toggle value) := by
  unfold Latch.toggle
  split
  · rename_i changes
    have flips : value = !latch.set := by
      cases value <;> cases set : latch.set <;> simp_all
    unfold Alternates at alternates ⊢
    rw [flips, alternates, ← decide_not]
    simp only [decide_eq_decide]
    omega
  · exact alternates

theorem toggle_future_le (latch : Latch) (value : Bool)
    : latch.future ≤ (latch.toggle value).future
      ∧ (latch.toggle value).future ≤ latch.future + 1 := by
  unfold Latch.toggle
  split <;> simp

theorem future_of_step {state next : State κ} {event : Event κ}
    (stepped : step state event = some next)
    : state.latch.future ≤ next.latch.future
      ∧ next.latch.future ≤ state.latch.future + 1 := by
  cases move_of_step stepped with
  | toggles value => exact toggle_future_le _ _
  | _ => simp

theorem alternates_of_step {state next : State κ} {event : Event κ}
    (alternates : Alternates state.latch) (stepped : step state event = some next)
    : Alternates next.latch := by
  cases move_of_step stepped with
  | toggles value => exact alternates.toggle value
  | _ => exact alternates

theorem alternates_of_run {state final : State κ} {events : List (Event κ)}
    (start : Alternates state.latch) (reached : Transition.run step state events = some final)
    : Alternates final.latch :=
  Transition.run_preserves (fun _ _ _ => alternates_of_step) start reached

theorem alternates_of_initial {reached : State κ} {events : List (Event κ)}
    (before : Transition.run step .initial events = some reached)
    : Alternates reached.latch :=
  have start : Alternates (State.initial : State κ).latch := rfl
  alternates_of_run start before

theorem future_le_of_run {state final : State κ} {events : List (Event κ)}
    (reached : Transition.run step state events = some final)
    : state.latch.future ≤ final.latch.future :=
  Transition.run_preserves (P := fun visited => state.latch.future ≤ visited.latch.future)
    (fun _ _ _ later stepped => Nat.le_trans later (future_of_step stepped).1) (Nat.le_refl _)
    reached

/-- A latch that got a new future in a run has shown its other value in it. -/
theorem exists_toggled_iff {state final : State κ} {events : List (Event κ)}
    (alternates : Alternates state.latch)
    (reached : Transition.run step state events = some final)
    : (∃ visited middle,
        visited.IsPrefix events
        ∧ Transition.run step state visited = some middle
        ∧ middle.latch.set ≠ state.latch.set)
      ↔ state.latch.future < final.latch.future := by
  constructor
  · rintro ⟨visited, middle, ⟨rest, rfl⟩, here, differs⟩
    obtain ⟨other, same, tail⟩ := Transition.run_append_iff.mp reached
    obtain rfl := Option.some.inj (here.symm.trans same)
    have before := future_le_of_run here
    have after := future_le_of_run tail
    have moved : state.latch.future ≠ middle.latch.future := by
      intro same
      exact differs (by rw [alternates_of_run alternates here, alternates, same])
    omega
  · intro later
    obtain ⟨visited, middle, earlier, here, next⟩ :=
      Transition.run_passes (fun state : State κ => state.latch.future)
        (fun _ _ _ stepped => (future_of_step stepped).2) reached
        (Nat.le_succ state.latch.future) later
    refine ⟨visited, middle, earlier, here, ?_⟩
    rw [alternates_of_run alternates here, alternates, next]
    simp only [ne_eq, decide_eq_decide]
    omega

-----------------------------------------------------------------------------------------
-- A call, from its first step on
-----------------------------------------------------------------------------------------

/-- What is known of a task since it called the method on a latch: it holds the future of then, and
neither its `outer` future succeeds nor it returns before that one is resolved.
-/
def Since (start : Latch) (method : Method) (latch : Latch) : Place → Prop
  | .idle => False
  | .suspended called inner outer =>
      called = method
      ∧ inner = start.future
      ∧ (outer = .success () → start.future < latch.future)
  | .returned _ => method.suspends start = true → start.future < latch.future
  | .cancelled => True

theorem since_call (latch : Latch) (method : Method)
    : Since latch method latch (latch.call method) := by
  unfold call
  split
  · exact ⟨rfl, rfl, by simp⟩
  · simp_all [Since]

theorem Since.mono {start latch next : Latch} {method : Method} {place : Place}
    (since : Since start method latch place) (later : latch.future ≤ next.future)
    : Since start method next place := by
  cases place with
  | idle => exact since
  | suspended called inner outer =>
      exact ⟨since.1, since.2.1, fun done => Nat.lt_of_lt_of_le (since.2.2 done) later⟩
  | returned value => exact fun suspends => Nat.lt_of_lt_of_le (since suspends) later
  | cancelled => trivial

/-- Until the task calls again, each step keeps what is known of its call. -/
theorem Since.step {start : Latch} {method : Method} {state next : State κ} {event : Event κ}
    {task : κ} (since : Since start method state.latch (state.tasks task))
    (once : ∀ method, event ≠ .call task method) (stepped : step state event = some next)
    : Since start method next.latch (next.tasks task) := by
  by_cases own : event.task? = some task
  · cases move_of_step stepped with
    | toggles value => simp [Event.task?] at own
    | calls method free =>
        obtain rfl := Option.some.inj own
        exact absurd rfl (once method)
    | wakes here resolved =>
        obtain rfl := Option.some.inj own
        rw [here] at since
        simp only [setPlace_tasks, if_true, setPlace_latch]
        exact ⟨since.1, since.2.1, fun _ => since.2.1 ▸ resolved⟩
    | returns here =>
        obtain rfl := Option.some.inj own
        rw [here] at since
        simp only [setPlace_tasks, if_true, setPlace_latch]
        exact fun _ => since.2.2 rfl
    | throws here =>
        obtain rfl := Option.some.inj own
        simp only [setPlace_tasks, if_true, setPlace_latch]
        trivial
    | cancels here =>
        obtain rfl := Option.some.inj own
        rw [here] at since
        simp only [setPlace_tasks, if_true, setPlace_latch]
        exact ⟨since.1, since.2.1, by simp⟩
  · rw [tasks_of_step stepped own]
    exact since.mono (future_of_step stepped).1

/-- A call of a task, and the run from there up to its next call. -/
theorem since_of_run {start final : State κ} {task : κ} {method : Method}
    {later : List (Event κ)} (once : ∀ method, .call task method ∉ later)
    (reached : Transition.run step start (.call task method :: later) = some final)
    : Since start.latch method final.latch (final.tasks task) := by
  obtain ⟨called, stepped, tail⟩ := Transition.run_cons_iff.mp reached
  refine Transition.run_preserves_of_mem
    (P := fun state : State κ => Since start.latch method state.latch (state.tasks task))
    (fun state event member next since stepped =>
      since.step (fun method same => once method (same ▸ member)) stepped) ?_ tail
  cases move_of_step stepped with
  | calls method free => simpa using since_call start.latch method

-----------------------------------------------------------------------------------------
-- Runs
-----------------------------------------------------------------------------------------

/-- The loop can run a callback for the task, or resume it. -/
def Awake (state : State κ) (task : κ) : Prop :=
  (step state (.innerDone task)).isSome = true ∨ (step state (.resume task)).isSome = true

/-- What the latch must have shown to a task whose call returns. -/
def Method.Saw (before now : Latch) : Method → Prop
  | wait => now.set ≠ before.set
  | waitSet => now.set = true
  | waitUnset => now.set = false

/-- A task that waits on a latch, and is not asked to cancel, can go on exactly when the latch was
toggled at any time since its call.
-/
theorem awake_iff_toggled {earlier later : List (Event κ)} {start final : State κ} {task : κ}
    {method called : Method} {inner : Nat} {outer : FutureState Empty Unit}
    (before : Transition.run step .initial earlier = some start)
    (once : ∀ method, .call task method ∉ later)
    (reached : Transition.run step start (.call task method :: later) = some final)
    (suspended : final.tasks task = .suspended called inner outer)
    (kept : outer ≠ .cancelled)
    : Awake final task
      ↔ ∃ visited middle,
          visited.IsPrefix (.call task method :: later)
          ∧ Transition.run step start visited = some middle
          ∧ middle.latch.set ≠ start.latch.set := by
  have since := since_of_run once reached
  rw [suspended] at since
  obtain ⟨rfl, rfl, woken⟩ := since
  rw [exists_toggled_iff (alternates_of_initial before) reached]
  unfold Awake
  cases outer with
  | pending =>
      simp only [step, suspended]
      by_cases resolved : start.latch.future < final.latch.future
      · simp [state_done_iff, resolved]
      · simp [state_done_iff, resolved]
  | success value => simp [step, suspended, woken rfl]
  | cancelled => contradiction
  | exception error => exact error.elim

/-- A latch that is set and unset again wakes the task that waits for it. -/
theorem awake_of_brief_toggle
    : ∃ final : State Nat,
        Transition.run step .initial [.call 0 .waitSet, .toggle true, .toggle false] = some final
        ∧ (Awake final 0
            ↔ ∃ visited middle,
                visited.IsPrefix [.call 0 .waitSet, .toggle true, .toggle false]
                ∧ Transition.run step (.initial : State Nat) visited = some middle
                ∧ middle.latch.set ≠ false) := by
  have before : Transition.run step (.initial : State Nat) [] = some .initial := rfl
  have reached
      : Transition.run step (.initial : State Nat)
          (.call 0 .waitSet :: [.toggle true, .toggle false]) = some _ :=
    rfl
  exact ⟨_, reached, awake_iff_toggled before (by simp) reached rfl (by simp)⟩

/-- A call that returns has seen, at some time since it was made, the latch in the state that it
asks for, and `wait()` has seen it change.
-/
theorem returned_saw {earlier later : List (Event κ)} {start final : State κ} {task : κ}
    {method : Method} {value : Option Bool}
    (before : Transition.run step .initial earlier = some start)
    (once : ∀ method, .call task method ∉ later)
    (reached : Transition.run step start (.call task method :: later) = some final)
    (returned : final.tasks task = .returned value)
    : ∃ visited middle,
        visited.IsPrefix (.call task method :: later)
        ∧ Transition.run step start visited = some middle
        ∧ method.Saw start.latch middle.latch := by
  have since := since_of_run once reached
  rw [returned] at since
  by_cases suspends : method.suspends start.latch = true
  · obtain ⟨visited, middle, prefixed, here, differs⟩ :=
      (exists_toggled_iff (alternates_of_initial before) reached).mpr (since suspends)
    refine ⟨visited, middle, prefixed, here, ?_⟩
    cases method <;> simp_all [Method.Saw, Method.suspends]
  · refine ⟨[], start, List.nil_prefix, rfl, ?_⟩
    cases method <;> simp_all [Method.Saw, Method.suspends]

/-- `wait_set()` on a latch that is unset again before it returns. -/
theorem returned_saw_brief_toggle
    : ∃ visited middle,
        visited.IsPrefix
          [.call 0 .waitSet, .toggle true, .toggle false, .innerDone 0, .resume 0]
        ∧ Transition.run step (.initial : State Nat) visited = some middle
        ∧ middle.latch.set = true := by
  have before : Transition.run step (.initial : State Nat) [] = some .initial := rfl
  have reached
      : Transition.run step (.initial : State Nat)
          (.call 0 .waitSet :: [.toggle true, .toggle false, .innerDone 0, .resume 0])
        = some _ :=
    rfl
  exact returned_saw before (by simp) reached rfl

end Aiodrive.Latch
