import Aiodrive.Shield.Callbacks
import Aiodrive.Shield.Model

/-! Whole runs of a shield: the returned future mirrors the inner one unless it is cancelled first.
The task that awaits the shield sees no more of it than its outer future.
-/

namespace Aiodrive.ShieldCallbacks

variable {ε α : Type*} {state next : State ε α} {event : Event ε α} {first : Prop}

-----------------------------------------------------------------------------------------
-- Whole runs
-----------------------------------------------------------------------------------------

/-- What holds after each run, for the events so far. -/
structure Sound (start : State ε α) (past : List (Event ε α)) (state : State ε α) : Prop where
  reached : Transition.run step start past = some state
  phase : Phase (CancelledFirst start past) state
  intact : state.failed = false
  inner : state.inner.state = completed start.inner.state past

theorem sound_shield (inner : FutureState ε α) (others : List Nat)
    : Sound (shield (awaited inner others)) [] (shield (awaited inner others)) := by
  obtain ⟨phase, intact⟩ := phase_shield inner others
  have none : CancelledFirst (shield (awaited inner others)) [] = False :=
    eq_false Transition.not_took_nil
  exact ⟨rfl, none ▸ phase, intact, rfl⟩

theorem Sound.step {start : State ε α} {past : List (Event ε α)} (sound : Sound start past state)
    (stepped : ShieldCallbacks.step state event = some next)
    : Sound start (past ++ [event]) next := by
  have move := move_of_step stepped
  obtain ⟨phase, failed⟩ := sound.phase.step move
  have took : CancelledFirst start (past ++ [event])
      = (CancelledFirst start past ∨ CancelsPending state event) :=
    propext (Transition.took_concat_iff sound.reached)
  refine ⟨Transition.run_concat sound.reached stepped, took ▸ phase, ?_, ?_⟩
  · exact failed.trans sound.intact
  · rw [completed_append, ← sound.inner]
    exact sound.phase.inner_step move

/-- The invariant of every run, by induction on the events. -/
theorem run_sound {inner : FutureState ε α} {others : List Nat} {events : List (Event ε α)}
    {final : State ε α}
    (reached : Transition.run step (shield (awaited inner others)) events = some final)
    : Sound (shield (awaited inner others)) events final :=
  Transition.run_preserves_history (fun _ _ _ _ sound stepped => sound.step stepped)
    (sound_shield inner others) reached

/-- A shield is decided once the inner future is done and the callback has run. -/
theorem Phase.returned_done (phase : Phase first state) (done : state.inner.state.done = true)
    (called : .innerCallback ∉ state.scheduled)
    : state.returned.done = true := by
  cases phase with
  | same here => simpa only [State.returned, here] using done
  | cancelled outer here cancelled => simp [State.returned, here, cancelled]
  | mirrored outer here _ mirrors => simpa only [State.returned, here, mirrors] using done
  | undecided outer undecided =>
      have once := undecided.once
      rw [state.inner.cleared done, List.count_eq_zero.mpr called] at once
      simp at once

/-- The returned future is cancelled if it was cancelled first, and mirrors the inner one if not. -/
theorem Phase.returned_spec (phase : Phase first state)
    : (first → state.returned = .cancelled)
      ∧ (¬first → state.returned.done = true → state.returned = state.inner.state) := by
  cases phase with
  | same here _ other =>
      exact ⟨fun cancelled => absurd cancelled other, fun _ _ => by simp only [State.returned, here]⟩
  | undecided outer undecided other =>
      refine ⟨fun cancelled => absurd cancelled other, fun _ done => ?_⟩
      simp [State.returned, undecided.here, undecided.pending] at done
  | cancelled outer here cancelled first =>
      exact ⟨fun _ => by simp only [State.returned, here, cancelled],
        fun other => absurd first other⟩
  | mirrored outer here _ mirrors _ other =>
      exact ⟨fun cancelled => absurd cancelled other,
        fun _ _ => by simp only [State.returned, here, mirrors]⟩

/-- `shield()` mirrors its inner future: no `assert` fails; only its own completion changes the
inner future; the returned one is cancelled if that came first, and otherwise ends with the
state of the inner one, as soon as the callback has run.
-/
theorem shield_mirrors (inner : FutureState ε α) (others : List Nat) {events : List (Event ε α)}
    {final : State ε α}
    (reached : Transition.run step (shield (awaited inner others)) events = some final)
    : final.failed = false
      ∧ final.inner.state = completed inner events
      ∧ (CancelledFirst (shield (awaited inner others)) events → final.returned = .cancelled)
      ∧ (¬CancelledFirst (shield (awaited inner others)) events
          → final.returned.done = true
          → final.returned = final.inner.state)
      ∧ (final.inner.state.done = true
          → .innerCallback ∉ final.scheduled
          → final.returned.done = true) := by
  have sound := run_sound reached
  obtain ⟨cancels, mirrors⟩ := sound.phase.returned_spec
  have start : (shield (awaited inner others)).inner.state = inner := by
    unfold shield
    split
    · rfl
    · exact CallbackFuture.state_addDoneCallback ..
  exact ⟨sound.intact, start ▸ sound.inner, cancels, mirrors, sound.phase.returned_done⟩

/-- A result that arrives before a cancellation of the task that awaits the shield. -/
theorem shield_mirrors_result
    : ∃ final : State String Nat,
        Transition.run step (shield (awaited .pending []))
            [.addToReturned 0, .innerEnds (.success 7), .runs .innerCallback, .cancel,
              .runs .outerCallback]
          = some final
        ∧ final.failed = false
        ∧ final.inner.state = .success 7
        ∧ final.returned = .success 7 := by
  have reached : Transition.run step (shield (awaited .pending []))
      [.addToReturned 0, .innerEnds (.success (ε := String) 7), .runs .innerCallback, .cancel,
        .runs .outerCallback] = some _ := rfl
  obtain ⟨intact, completed, -⟩ := shield_mirrors .pending [] reached
  exact ⟨_, reached, intact, completed, rfl⟩

-----------------------------------------------------------------------------------------
-- The shield as the task that awaits it sees it
-----------------------------------------------------------------------------------------

/-- The waiter has the outer future of the shield. -/
def Shows (state : State ε α) (waiter : Shielded ε α) : Prop :=
  state.outer.map CallbackFuture.state = some waiter.outer

/-- What an event is to the waiter. -/
def onWaiter (inner : FutureState ε α) (waiter : Shielded ε α) : Event ε α → Shielded ε α
  | .cancel => waiter.cancel
  | .runs .innerCallback => (waiter.innerCallback inner).getD waiter
  | .runs .outerCallback | .runs (.other _) | .innerEnds _ | .addToInner _ | .addToReturned _ =>
      waiter

/-- A pending waiter is given the state of an inner future that is done. -/
theorem innerCallback_waiter {inner : FutureState ε α} {waiter : Shielded ε α}
    (done : inner.done = true) (pending : waiter.outer = .pending)
    : waiter.innerCallback inner = some { waiter with outer := inner } := by
  simp [Shielded.innerCallback, done, pending, FutureState.isCancelled,
    FutureState.transfer_of_done done]

/-- Each step of the shield is one of its waiter, or nothing to it. -/
theorem Phase.shows_step {waiter : Shielded ε α} (phase : Phase first state)
    (shows : Shows state waiter) (move : Move state event next)
    : Shows next (onWaiter state.inner.state waiter event) := by
  obtain ⟨outer, here, same⟩ := Option.map_eq_some_iff.mp shows
  cases move with
  | ends | addsToInner => exact shows
  | cancels =>
      rw [onReturned_of_some here, onWaiter, Shielded.cancel, ← same]
      cases done : outer.state.done with
      | true =>
          rw [CallbackFuture.cancel_of_done done]
          rfl
      | false =>
          rw [CallbackFuture.cancel_of_pending (FutureState.done_eq_false_iff.mp done)]
          rfl
  | addsToReturned =>
      rw [onReturned_of_some here]
      exact congrArg some ((CallbackFuture.state_addDoneCallback ..).trans same)
  | @runs callback scheduled =>
      cases callback with
      | outerCallback | other id => exact shows
      | innerCallback =>
          cases phase with
          | same none => simp [none] at here
          | undecided pendingOuter undecided =>
              obtain rfl := Option.some.inj (undecided.here.symm.trans here)
              obtain ⟨done, -, called⟩ := undecided.runs_innerCallback scheduled
              rw [called, onWaiter, innerCallback_waiter done (same.symm.trans undecided.pending)]
              rfl
          | cancelled other hereToo cancelled =>
              obtain rfl := Option.some.inj (hereToo.symm.trans here)
              have call : (state.dequeue .innerCallback).call .innerCallback = _ :=
                innerCallback_of_cancelled (by simp [State.dequeue, here, cancelled])
              have nothing : waiter.innerCallback state.inner.state = none := by
                simp [Shielded.innerCallback, ← same, cancelled, FutureState.isCancelled]
              rw [call, onWaiter, nothing]
              exact shows
          | mirrored other _ _ _ called => exact absurd scheduled called

/-- The waiter's callback can run exactly while the shield is pending and has it scheduled. -/
theorem Phase.innerCallback_isSome_iff {waiter : Shielded ε α} (phase : Phase first state)
    (shows : Shows state waiter)
    : (waiter.innerCallback state.inner.state).isSome = true
      ↔ waiter.outer = .pending ∧ .innerCallback ∈ state.scheduled := by
  constructor
  · intro enabled
    obtain ⟨after, called⟩ := Option.isSome_iff_exists.mp enabled
    obtain ⟨done, pending, -⟩ := Shielded.innerCallback_eq_some called
    refine ⟨pending, ?_⟩
    by_contra unscheduled
    have decided := phase.returned_done done unscheduled
    obtain ⟨outer, here, same⟩ := Option.map_eq_some_iff.mp shows
    simp [State.returned, here, same, pending] at decided
  · rintro ⟨pending, scheduled⟩
    obtain ⟨outer, here, same⟩ := Option.map_eq_some_iff.mp shows
    cases phase with
    | same none => simp [none] at here
    | undecided _ undecided =>
        obtain ⟨done, -, -⟩ := undecided.runs_innerCallback scheduled
        simp [innerCallback_waiter done pending]
    | cancelled other hereToo cancelled =>
        obtain rfl := Option.some.inj (hereToo.symm.trans here)
        simp [← same, cancelled] at pending
    | mirrored other _ _ _ called => exact absurd scheduled called

end Aiodrive.ShieldCallbacks
