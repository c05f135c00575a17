import Aiodrive.Cleanup.Model

/-! Whether `cleaned_up()` keeps the first cancellation that is requested after its entry from the
callback, and that the callback has ended when the context is left.
-/

namespace Aiodrive.CleanedUp

variable {ε : Type*}

/-- The callback has run to its end. -/
def Ended (events : List (Event ε)) : Prop :=
  ∃ ended, Event.callbackEnds ended ∈ events

theorem Ended.append {past : List (Event ε)} (ended : Ended past) (event : Event ε)
    : Ended (past ++ [event]) := by
  obtain ⟨state, member⟩ := ended
  exact ⟨state, List.mem_append_left _ member⟩

/-- A task that has no request outstanding at the entry has one shield for its callback, and is
told of nothing in there that was not requested since.
-/
def Place.Sound (entry : Outstanding) (past : List (Event ε)) (requests : Nat)
    (undelivered : List Nat)
    : Place ε → Prop
  | .body _ => entry.cancelling = 0 → undelivered ≠ [] → 0 < requests
  | .shielding _ wait =>
      ShieldWait.Sound 1 wait
      ∧ wait.deliveries ≤ requests
      ∧ (wait.inner.done = true → Ended past)
  | .awaiting _ => 0 < entry.cancelling
  | .left => Ended past

structure Sound (entry : Outstanding) (past : List (Event ε)) (state : State ε) : Prop where
  count : state.context.initialCancellationCount = entry.cancelling
  place : state.place.Sound entry past state.requests state.undelivered

theorem initial_sound (entry : Outstanding) : Sound entry [] (.initial entry : State ε) := by
  refine ⟨rfl, fun none pending => ?_⟩
  cases told : entry.undelivered with
  | true => exact absurd (entry.counted told) (by simp [none])
  | false => simp [State.initial, told] at pending

/-- The own steps of `shield_wait()` keep what holds of it. -/
theorem waits_sound {past : List (Event ε)} {event : Event ε} {own : ShieldWait.Event ε Unit}
    {wait next : ShieldWait.State ε Unit} {requests : Nat} (sound : ShieldWait.Sound 1 wait)
    (counted : wait.deliveries ≤ requests) (ended : wait.inner.done = true → Ended past)
    (same : event.shield? = some own) (waited : ShieldWait.step wait own = some next)
    : ShieldWait.Sound 1 next
      ∧ next.deliveries ≤ requests
      ∧ (next.inner.done = true → Ended (past ++ [event])) := by
  have notCancel : own ≠ .cancel := by
    rintro rfl
    cases event <;> simp [Event.shield?] at same
  refine ⟨ShieldWait.step_sound Nat.one_pos sound waited, ?_, fun done => ?_⟩
  · rw [ShieldWait.deliveries_of_step notCancel waited]
    exact counted
  · cases event with
    | callbackEnds state => exact ⟨state, by simp⟩
    | request | suspends | bodyEnds | callbackStarts => simp [Event.shield?] at same
    | resumes | innerCallback =>
        obtain rfl := Option.some.inj same
        rw [ShieldWait.inner_of_step (by simp) waited] at done
        exact (ended done).append _

/-- The shield of an uncancelled task begins with the request that the body has left behind, if
there is one.
-/
theorem shields_sound {entry : Outstanding} {past : List (Event ε)} {state : State ε}
    {wait : ShieldWait.State ε Unit} (later : List (Event ε)) (sound : Sound entry past state)
    (here : state.place = .body false) (budget : 0 < state.context.shieldCount 1)
    (told
      : if state.undelivered = [] then wait = .initial (state.context.shieldCount 1) .pending
        else ShieldWait.step (.initial (state.context.shieldCount 1) .pending) .cancel = some wait)
    : (Place.shielding false wait).Sound entry later state.requests [] := by
  have requested := sound.place
  rw [here] at requested
  obtain ⟨zero, one⟩ := ShieldContext.shieldCount_of_pos budget
  have fresh : ShieldWait.Sound 1 (.initial (1 : Nat) .pending : ShieldWait.State ε Unit) :=
    ShieldWait.initial_sound Nat.one_pos _
  rw [one] at told
  split at told
  · subst told
    exact ⟨fresh, Nat.zero_le _, by simp [ShieldWait.State.initial]⟩
  · rename_i pending
    have positive : 0 < state.requests := requested (sound.count ▸ zero) pending
    refine ⟨ShieldWait.step_sound Nat.one_pos fresh told, ?_, fun done => ?_⟩
    · exact Nat.le_trans (ShieldWait.deliveries_of_cancel told).1 positive
    · rw [ShieldWait.inner_of_step (by simp) told] at done
      simp [ShieldWait.State.initial] at done

/-- Every step keeps what holds of the context, by cases on the moves. -/
theorem step_sound {entry : Outstanding} {past : List (Event ε)} {state next : State ε}
    {event : Event ε} (sound : Sound entry past state) (stepped : step state event = some next)
    : Sound entry (past ++ [event]) next := by
  have count := sound.count
  have place := sound.place
  refine ⟨?_, ?_⟩
  · cases move_of_step stepped <;> exact count
  cases move_of_step stepped with
  | asks here =>
      rcases here with here | here
      · simp only [here]
        exact fun _ _ => Nat.succ_pos _
      · simp only [here] at place ⊢
        exact place
  | asksShield here cancelled =>
      rw [here] at place
      obtain ⟨wait, counted, ended⟩ := place
      refine ⟨ShieldWait.step_sound Nat.one_pos wait cancelled, ?_, fun done => ?_⟩
      · have once := (ShieldWait.deliveries_of_cancel cancelled).1
        simp only
        omega
      · rw [ShieldWait.inner_of_step (by simp) cancelled] at done
        exact (ended done).append _
  | suspendsBody here | suspendsCallback here | resumesCallback here =>
      rw [here] at place
      exact place
  | resumesBody here => exact fun _ nonempty => absurd rfl nonempty
  | awaits here spent =>
      unfold ShieldContext.shieldCount at spent
      simp only [Place.Sound]
      omega
  | shields here budget told =>
      have begun := shields_sound (past ++ [.bodyEnds]) sound here budget told
      exact begun
  | starts here =>
      rw [here] at place
      exact ⟨place.1, place.2.1, fun done => (place.2.2 done).append _⟩
  | @ends ended here done => exact ⟨ended, by simp⟩
  | waits here same waited =>
      rw [here] at place
      exact waits_sound place.1 place.2.1 place.2.2 same waited
  | leaves here same waited exited =>
      rw [here] at place
      obtain ⟨wait, -, ended⟩ := waits_sound place.1 place.2.1 place.2.2 same waited
      have exit := wait.place
      rw [exited] at exit
      exact ended exit.1

theorem run_sound {entry : Outstanding} {events : List (Event ε)} {final : State ε}
    (reached : Transition.run step (.initial entry) events = some final)
    : Sound entry events final :=
  Transition.run_preserves_history (fun _ _ _ _ => step_sound) (initial_sound entry) reached

-----------------------------------------------------------------------------------------
-- The first request
-----------------------------------------------------------------------------------------

/-- The callback has received the first request, or will when its task resumes. -/
def Exposed (state : State ε) : Prop :=
  1 ∈ state.received ∨ state.place = .awaiting true ∧ 1 ∈ state.undelivered

/-- The step does not leave a directly awaited callback suspended while the first request is
undelivered.
-/
def Unexposed (state : State ε) (event : Event ε) : Prop :=
  (state.place = .awaiting true → event = .request → state.requests ≠ 0)
  ∧ (state.place = .awaiting false → event = .suspends → 1 ∉ state.undelivered)

instance [DecidableEq ε] (state : State ε) (event : Event ε)
    : Decidable (Unexposed state event) :=
  inferInstanceAs (Decidable ((_ → _ → _) ∧ (_ → _ → _)))

/-- The task of a shielded callback is not passed the first request. -/
theorem received_of_cancel {entry : Outstanding} {past : List (Event ε)} {state : State ε}
    {started : Bool} {wait next : ShieldWait.State ε Unit} (sound : Sound entry past state)
    (here : state.place = .shielding started wait)
    (cancelled : ShieldWait.step wait .cancel = some next)
    : 1 ∈ (if wait.passed.length < next.passed.length then state.received ++ [state.requests + 1]
          else state.received)
      ↔ 1 ∈ state.received := by
  have place := sound.place
  rw [here] at place
  split
  · rename_i longer
    have passed : next.passed = wait.passed ++ [wait.deliveries + 1] := by
      rcases (ShieldWait.deliveries_of_cancel cancelled).2 with same | passed
      · exact absurd longer (by simp [same])
      · exact passed
    have later : 1 < wait.deliveries + 1 :=
      (ShieldWait.step_sound Nat.one_pos place.1 cancelled).passed _ (by simp [passed])
    have different : state.requests ≠ 0 := by
      have counted := place.2.1
      omega
    simp [different]
  · exact Iff.rfl

/-- The callback gets exposed by exactly the steps that the condition excludes, by cases on the
moves.
-/
theorem step_exposed {entry : Outstanding} {past : List (Event ε)} {state next : State ε}
    {event : Event ε} (sound : Sound entry past state) (stepped : step state event = some next)
    : Exposed next ↔ Exposed state ∨ ¬Unexposed state event := by
  cases move_of_step stepped with
  | @asks suspended here =>
      rcases here with here | here
      · simp [Exposed, Unexposed, here]
      · cases suspended with
        | true => simp [Exposed, Unexposed, here, or_assoc]
        | false => simp [Exposed, Unexposed, here]
  | asksShield here cancelled =>
      simp [Exposed, Unexposed, here, received_of_cancel sound here cancelled]
  | suspendsBody here | suspendsCallback here | resumesBody here | resumesCallback here
  | awaits here _ | shields here _ _ | starts here | ends here _ | waits here _ _
  | leaves here _ _ _ => simp [Exposed, Unexposed, here]

-----------------------------------------------------------------------------------------
-- Runs
-----------------------------------------------------------------------------------------

/-- What the callback is promised: it does not receive the first request made after the entry,
and has run to its end when the context is left.
-/
structure Shields (events : List (Event ε)) (final : State ε) : Prop where
  received : 1 ∉ final.received
  ended : final.place = .left → Ended events

/-- The state has been reached by some events. -/
def Reached (entry : Outstanding) (state : State ε) : Prop :=
  ∃ past, Sound entry past state

theorem initial_reached (entry : Outstanding) : Reached entry (.initial entry : State ε) :=
  ⟨[], initial_sound entry⟩

theorem Reached.step {entry : Outstanding} {state next : State ε} {event : Event ε}
    (reached : Reached entry state) (stepped : step state event = some next)
    : Reached entry next := by
  obtain ⟨past, sound⟩ := reached
  exact ⟨_, step_sound sound stepped⟩

theorem Reached.exposed_iff {entry : Outstanding} {state next : State ε} {event : Event ε}
    (reached : Reached entry state) (stepped : CleanedUp.step state event = some next)
    : Exposed next ↔ Exposed state ∨ ¬Unexposed state event := by
  obtain ⟨past, sound⟩ := reached
  exact step_exposed sound stepped

theorem run_exposed {entry : Outstanding} {events : List (Event ε)} {final : State ε}
    (reached : Transition.run step (.initial entry) events = some final)
    : Exposed final ↔ ¬Transition.Meets step Unexposed (.initial entry) events :=
  Transition.bad_iff_not_meets_of_good Unexposed
    (fun _ _ _ _ holds stepped => holds.step stepped)
    (fun _ _ _ _ holds stepped => holds.exposed_iff stepped)
    (initial_reached entry) (by simp [Exposed, State.initial]) reached

theorem ended_of_left {entry : Outstanding} {events : List (Event ε)} {final : State ε}
    (reached : Transition.run step (.initial entry) events = some final)
    (left : final.place = .left)
    : Ended events := by
  have place := (run_sound reached).place
  rw [left] at place
  exact place

theorem shields_of_meets {entry : Outstanding} {events : List (Event ε)} {final : State ε}
    (reached : Transition.run step (.initial entry) events = some final)
    (met : Transition.Meets step Unexposed (.initial entry) events)
    : Shields events final :=
  ⟨fun received => (run_exposed reached).mp (.inl received) met, ended_of_left reached⟩

/-- The callback gets what it is promised in every run that does not leave it suspended, and
directly awaited, while the first request is undelivered, and in no other run that leaves the
context.
-/
theorem cleaned_up_shields_iff {entry : Outstanding} {events : List (Event ε)} {final : State ε}
    (reached : Transition.run step (.initial entry) events = some final)
    : (Transition.Meets step Unexposed (.initial entry) events → Shields events final)
      ∧ (final.place = .left
        → (Shields events final ↔ Transition.Meets step Unexposed (.initial entry) events)) := by
  refine ⟨shields_of_meets reached, fun left => ⟨fun shields => ?_, shields_of_meets reached⟩⟩
  by_contra unmet
  rcases (run_exposed reached).mpr unmet with received | ⟨suspended, -⟩
  · exact shields.received received
  · simp [left] at suspended

/-- A request that is delivered in the body does not reach the callback. -/
theorem cleaned_up_shields_bodyCancelled
    : ∃ (entry : Outstanding) (events : List (Event String)) (final : State String),
        Transition.run step (.initial entry) events = some final
        ∧ entry.cancelling = 1
        ∧ final.requests = 1
        ∧ final.place = .left
        ∧ Shields events final := by
  let entry : Outstanding := { cancelling := 1, undelivered := false, counted := by simp }
  let events : List (Event String) :=
    [.suspends, .request, .resumes, .bodyEnds, .suspends, .resumes, .callbackEnds (.success ())]
  have reached : Transition.run step (.initial entry) events = some _ := rfl
  exact ⟨entry, events, _, reached, rfl, rfl, rfl,
    ((cleaned_up_shields_iff reached).2 rfl).mpr (by decide)⟩

/-- The callback of a task that was cancelled before the entry receives the first request made
since.
-/
theorem cleaned_up_exposes_cancelled
    : ∃ (entry : Outstanding) (events : List (Event String)) (final : State String),
        Transition.run step (.initial entry) events = some final
        ∧ entry.cancelling = 1
        ∧ final.place = .left
        ∧ final.received = [1]
        ∧ ¬Shields events final := by
  let entry : Outstanding := { cancelling := 1, undelivered := false, counted := by simp }
  let events : List (Event String) :=
    [.bodyEnds, .suspends, .request, .resumes, .callbackEnds (.success ())]
  have reached : Transition.run step (.initial entry) events = some _ := rfl
  refine ⟨entry, events, _, reached, rfl, rfl, rfl, fun shields => ?_⟩
  exact absurd shields.received (by decide)

/-- A task without a request outstanding at the entry never awaits the callback directly. -/
theorem meets_of_uncancelled {entry : Outstanding} (uncancelled : entry.cancelling = 0)
    (events : List (Event ε))
    : Transition.Meets step Unexposed (.initial entry) events := by
  apply Transition.meets_of_inv (fun _ _ _ _ holds stepped => Reached.step holds stepped) _
    (initial_reached entry)
  rintro state event - ⟨past, sound⟩
  have away (suspended : Bool) : state.place ≠ .awaiting suspended := by
    intro here
    have place := sound.place
    rw [here] at place
    exact absurd place (by simp [Place.Sound, uncancelled])
  exact ⟨fun here => absurd here (away true), fun here => absurd here (away false)⟩

/-- The promise is kept to every task that enters the context uncancelled. -/
theorem cleaned_up_shields_uncancelled {entry : Outstanding} {events : List (Event ε)}
    {final : State ε} (uncancelled : entry.cancelling = 0)
    (reached : Transition.run step (.initial entry) events = some final)
    : Shields events final :=
  shields_of_meets reached (meets_of_uncancelled uncancelled events)

end Aiodrive.CleanedUp
