import Aiodrive.Shield.Model
import Aiodrive.Transition.Runs

/-! `shield_wait_forever()` of `modules/shield.py`: a task that shields its awaitable again after
every `CancelledError`, whether that came from its own cancellation or from the awaitable.
-/

namespace Aiodrive.ShieldWaitForever

variable {ε α : Type*}

/-- Where `shield_wait_forever()` is: at the beginning of an iteration of its `while True`, at
`await shield(task)`, or at its end.
-/
inductive Place (ε α : Type*) where
  | looping (cancelled : Bool)
  | shielding (cancelled : Bool) (waiter : Shielded ε α)
  | exited (outcome : Outcome ε α)
deriving DecidableEq, Repr

/-- The task, `shield_wait_forever()`, and the number of cancellations that were delivered to its
caller.
-/
structure State (ε α : Type*) where
  inner : FutureState ε α
  place : Place ε α
  deliveries : Nat
deriving DecidableEq, Repr

def State.initial (inner : FutureState ε α) : State ε α :=
  { inner, place := .looping false, deliveries := 0 }

/-- What can happen: an iteration begins, the task ends, the callback of its shield runs, or the
caller is cancelled, or resumes.
-/
inductive Event (ε α : Type*) where
  | iterate
  | innerEnds (ended : FutureState ε α)
  | innerCallback
  | cancel
  | resume
deriving DecidableEq, Repr

/-- Where `await shield(task)` has a result, the `while` ends or begins again. -/
def resumeShield (cancelled : Bool) (result : FutureState ε α) : Place ε α :=
  match result with
  | .success value => .exited (finishShielded cancelled value)
  | .cancelled => .looping true
  | .exception _ | .pending => .exited result.result

/-- An iteration up to its suspension. Awaiting a done task does not suspend. -/
def iterate (inner : FutureState ε α) (cancelled : Bool) : Place ε α :=
  if inner.done then resumeShield cancelled inner else .shielding cancelled .new

def step (state : State ε α) : Event ε α → Option (State ε α)
  | .iterate =>
      match state.place with
      | .looping cancelled => some { state with place := iterate state.inner cancelled }
      | .shielding _ _ | .exited _ => none
  | .innerEnds ended =>
      if state.inner.done || !ended.done then none else some { state with inner := ended }
  | .innerCallback =>
      match state.place with
      | .shielding cancelled waiter =>
          (waiter.innerCallback state.inner).map (fun waiter =>
            { state with place := .shielding cancelled waiter })
      | .looping _ | .exited _ => none
  | .cancel =>
      match state.place with
      | .shielding cancelled waiter =>
          some { state with
            place := .shielding cancelled waiter.cancel
            deliveries :=
              if waiter.interrupted then state.deliveries else state.deliveries + 1 }
      | .looping _ | .exited _ => none
  | .resume =>
      match state.place with
      | .shielding cancelled waiter =>
          waiter.result?.map (fun result =>
            { state with place := resumeShield cancelled result })
      | .looping _ | .exited _ => none

def State.Exited (state : State ε α) : Prop :=
  ∃ outcome, state.place = .exited outcome

-----------------------------------------------------------------------------------------
-- The moves and the invariant
-----------------------------------------------------------------------------------------

/-- The steps, one constructor for each branch. -/
inductive Move : State ε α → Event ε α → State ε α → Prop where
  | iterates {inner : FutureState ε α} {cancelled : Bool} {deliveries : Nat}
    : Move { inner, place := .looping cancelled, deliveries } .iterate
        { inner, place := iterate inner cancelled, deliveries }
  | ends {ended : FutureState ε α} {place : Place ε α} {deliveries : Nat}
    (done : ended.done = true)
    : Move { inner := .pending, place, deliveries } (.innerEnds ended)
        { inner := ended, place, deliveries }
  | calls {inner : FutureState ε α} {cancelled : Bool} {waiter called : Shielded ε α}
    {deliveries : Nat} (runs : waiter.innerCallback inner = some called)
    : Move { inner, place := .shielding cancelled waiter, deliveries } .innerCallback
        { inner, place := .shielding cancelled called, deliveries }
  | cancels {inner : FutureState ε α} {cancelled : Bool} {waiter : Shielded ε α}
    {deliveries : Nat}
    : Move { inner, place := .shielding cancelled waiter, deliveries } .cancel
        { inner
          place := .shielding cancelled waiter.cancel
          deliveries := if waiter.interrupted then deliveries else deliveries + 1 }
  | resumes {inner result : FutureState ε α} {cancelled : Bool} {waiter : Shielded ε α}
    {deliveries : Nat} (resumed : waiter.result? = some result)
    : Move { inner, place := .shielding cancelled waiter, deliveries } .resume
        { inner, place := resumeShield cancelled result, deliveries }

/-- Every step is one of the moves. -/
theorem move_of_step {state next : State ε α} {event : Event ε α}
    (stepped : step state event = some next)
    : Move state event next := by
  obtain ⟨inner, place, deliveries⟩ := state
  cases event with
  | innerEnds ended =>
      simp only [step, Option.ite_none_left_eq_some, Bool.or_eq_true, not_or] at stepped
      obtain ⟨⟨notDone, done⟩, same⟩ := stepped
      obtain rfl := FutureState.done_eq_false_iff.mp (by simpa using notDone)
      exact Option.some.inj same ▸ .ends (by simpa using done)
  | iterate =>
      cases place with
      | looping cancelled => exact Option.some.inj stepped ▸ .iterates
      | shielding _ _ | exited _ => contradiction
  | innerCallback =>
      cases place with
      | shielding cancelled waiter =>
          obtain ⟨called, runs, rfl⟩ := Option.map_eq_some_iff.mp stepped
          exact .calls runs
      | looping _ | exited _ => contradiction
  | cancel =>
      cases place with
      | shielding cancelled waiter => exact Option.some.inj stepped ▸ .cancels
      | looping _ | exited _ => contradiction
  | resume =>
      cases place with
      | shielding cancelled waiter =>
          obtain ⟨result, resumed, rfl⟩ := Option.map_eq_some_iff.mp stepped
          exact .resumes resumed
      | looping _ | exited _ => contradiction

/-- `shield_wait_forever()` and its caller do not end the task by themselves. -/
theorem inner_of_step {state next : State ε α} {event : Event ε α}
    (own : ∀ ended, event ≠ .innerEnds ended) (stepped : step state event = some next)
    : next.inner = state.inner := by
  cases move_of_step stepped with
  | ends => exact (own _ rfl).elim
  | iterates | calls _ | cancels | resumes _ => rfl

/-- Where the function is fits the task and the deliveries so far; only a cancelled task makes its
flag tell of a delivery that was none.
-/
def Place.Sound (inner : FutureState ε α) (deliveries : Nat) : Place ε α → Prop
  | .looping cancelled => inner ≠ .cancelled → (cancelled = true ↔ 0 < deliveries)
  | .shielding cancelled waiter =>
      waiter.Sound inner
      ∧ if waiter.interrupted then 0 < deliveries else (cancelled = true ↔ 0 < deliveries)
  | .exited outcome =>
      inner.done = true
      ∧ inner ≠ .cancelled
      ∧ outcome = shieldedOutcome inner deliveries

def State.Sound (state : State ε α) : Prop :=
  state.place.Sound state.inner state.deliveries

/-- A task that is done ends the function as owed, or begins an iteration if it is cancelled. -/
theorem resumeShield_sound {inner : FutureState ε α} {deliveries : Nat} {cancelled : Bool}
    (done : inner.done = true)
    (told : inner ≠ .cancelled → (cancelled = true ↔ 0 < deliveries))
    : (resumeShield cancelled inner).Sound inner deliveries := by
  cases inner with
  | pending => contradiction
  | cancelled => exact fun notCancelled => (notCancelled rfl).elim
  | exception error => exact ⟨rfl, by simp, rfl⟩
  | success value => exact ⟨rfl, by simp, finishShielded_eq value (told (by simp))⟩

/-- Every step keeps the invariant, by cases on the moves. -/
theorem step_sound {state next : State ε α} {event : Event ε α} (sound : state.Sound)
    (stepped : step state event = some next)
    : next.Sound := by
  cases move_of_step stepped with
  | @iterates inner cancelled deliveries =>
      unfold State.Sound iterate
      split
      · rename_i done
        exact resumeShield_sound done sound
      · rename_i notDone
        have running : inner ≠ .cancelled := by
          rintro rfl
          exact notDone rfl
        exact ⟨Shielded.sound_new inner, sound running⟩
  | @ends ended place deliveries done =>
      cases place with
      | looping cancelled => exact fun _ => sound (by simp)
      | shielding cancelled waiter => exact ⟨sound.1.innerEnds, sound.2⟩
      | exited outcome => exact absurd sound.1 (by simp)
  | @calls inner cancelled waiter called deliveries runs =>
      refine ⟨.innerCallback runs, ?_⟩
      rw [(Shielded.innerCallback_eq_some runs).2.2]
      exact sound.2
  | @cancels inner cancelled waiter deliveries =>
      refine ⟨sound.1.cancel, ?_⟩
      have told := sound.2
      cases interrupted : waiter.interrupted with
      | true => simpa [Shielded.cancel, interrupted] using told
      | false => simp [Shielded.cancel]
  | @resumes inner result cancelled waiter deliveries resumed =>
      obtain ⟨own, told⟩ := sound
      rcases own.result resumed with ⟨uninterrupted, rfl, done⟩ | ⟨interrupted, rfl⟩
      · rw [if_neg (by simp [uninterrupted])] at told
        exact resumeShield_sound done (fun _ => told)
      · rw [if_pos interrupted] at told
        exact fun _ => iff_of_true rfl told

theorem sound_initial (inner : FutureState ε α) : (State.initial inner).Sound :=
  fun _ => by simp [State.initial]

theorem run_sound {inner : FutureState ε α} {events : List (Event ε α)} {final : State ε α}
    (reached : Transition.run step (.initial inner) events = some final)
    : final.Sound :=
  Transition.run_preserves (fun _ _ _ => step_sound) (sound_initial inner) reached

-----------------------------------------------------------------------------------------
-- After the end of the task
-----------------------------------------------------------------------------------------

/-- A step that is no cancellation of the caller. -/
def Event.Own : Event ε α → Prop
  | .iterate | .innerEnds _ | .innerCallback | .resume => True
  | .cancel => False

/-- The steps left to `shield_wait_forever()` once its task has ended, but not as cancelled. -/
def State.stepsLeft (state : State ε α) : Nat :=
  match state.place with
  | .looping _ => 1
  | .shielding _ waiter => if waiter.outer.done then 2 else 3
  | .exited _ => 0

/-- The task has ended, and not as cancelled. -/
structure Settled (state : State ε α) : Prop where
  sound : state.Sound
  done : state.inner.done = true
  notCancelled : state.inner ≠ .cancelled

/-- A result other than a `CancelledError` leaves the loop. -/
theorem resumeShield_exited (cancelled : Bool) {result : FutureState ε α}
    (notCancelled : result ≠ .cancelled)
    : ∃ outcome, resumeShield cancelled result = .exited outcome := by
  cases result with
  | cancelled => contradiction
  | pending | exception _ | success _ => exact ⟨_, rfl⟩

/-- A task that is done stays as it is. -/
theorem inner_of_done {state next : State ε α} {event : Event ε α}
    (done : state.inner.done = true) (stepped : step state event = some next)
    : next.inner = state.inner := by
  cases move_of_step stepped with
  | ends => simp at done
  | iterates | calls _ | cancels | resumes _ => rfl

theorem step_settled {state next : State ε α} {event : Event ε α} (settled : Settled state)
    (stepped : step state event = some next)
    : Settled next := by
  have same := inner_of_done settled.done stepped
  exact ⟨step_sound settled.sound stepped, same ▸ settled.done, same ▸ settled.notCancelled⟩

/-- Every own step of a settled state comes closer to the end, by cases on the moves. -/
theorem Settled.stepsLeft_lt {state next : State ε α} {event : Event ε α}
    (settled : Settled state) (own : event.Own) (stepped : step state event = some next)
    : next.stepsLeft < state.stepsLeft := by
  obtain ⟨_, done, notCancelled⟩ := settled
  cases move_of_step stepped with
  | @iterates inner cancelled deliveries =>
      obtain ⟨outcome, exits⟩ := resumeShield_exited cancelled notCancelled
      simp only [State.stepsLeft, iterate, done, if_true, exits]
      exact Nat.one_pos
  | ends => simp at done
  | calls runs =>
      obtain ⟨_, pending, rfl⟩ := Shielded.innerCallback_eq_some runs
      simp only [State.stepsLeft, pending, FutureState.done_pending, Bool.false_eq_true, if_false]
      rw [if_pos done]
      exact Nat.lt_succ_self 2
  | cancels => exact own.elim
  | @resumes inner result cancelled waiter deliveries resumed =>
      have woken : waiter.outer.done = true := by
        by_contra asleep
        simp [Shielded.result?, asleep] at resumed
      have before
          : State.stepsLeft { inner, place := .shielding cancelled waiter, deliveries } = 2 := by
        simp [State.stepsLeft, woken]
      rw [before]
      cases result <;> simp [State.stepsLeft, resumeShield]

/-- A function that is suspended or looping can go on once its task is done. -/
theorem goesOn {state : State ε α} (sound : state.Sound) (done : state.inner.done = true)
    : state.Exited ∨ ∃ event, event.Own ∧ (step state event).isSome = true := by
  obtain ⟨inner, place, deliveries⟩ := state
  cases place with
  | exited outcome => exact Or.inl ⟨outcome, rfl⟩
  | looping cancelled => exact Or.inr ⟨.iterate, trivial, rfl⟩
  | shielding cancelled waiter =>
      cases woken : waiter.outer.done with
      | true => exact Or.inr ⟨.resume, trivial, by simp [step, Shielded.result?, woken]⟩
      | false =>
          have pending := FutureState.done_eq_false_iff.mp woken
          have ended : inner.done = true := done
          refine Or.inr ⟨.innerCallback, trivial, ?_⟩
          simp [step, Shielded.innerCallback, ended, pending, FutureState.isCancelled,
            FutureState.transfer_of_done ended]

/-- A cancelled task keeps the loop going: the function never exits. -/
theorem goesOn_of_cancelled {state : State ε α}
    (looping : state.Sound ∧ state.inner = .cancelled)
    : ∃ event next,
        event.Own
        ∧ step state event = some next
        ∧ next.Sound ∧ next.inner = .cancelled := by
  obtain ⟨sound, cancelled⟩ := looping
  have done : state.inner.done = true := by rw [cancelled]; rfl
  rcases goesOn sound done with ⟨outcome, exited⟩ | ⟨event, own, enabled⟩
  · have place := sound
    rw [State.Sound, exited] at place
    exact (place.2.1 cancelled).elim
  · obtain ⟨next, stepped⟩ := Option.isSome_iff_exists.mp enabled
    refine ⟨event, next, own, stepped, step_sound sound stepped, ?_⟩
    rw [inner_of_done done stepped, cancelled]

/-- Once its task is done and no more cancellation arrives, `shield_wait_forever()` exits after
finitely many steps, as owed, exactly if the task did not end as cancelled.
-/
theorem shieldWaitForever_ends_iff {inner : FutureState ε α} {events : List (Event ε α)}
    {state : State ε α}
    (reached : Transition.run step (.initial inner) events = some state)
    (done : state.inner.done = true)
    : (Transition.Terminates step Event.Own State.Exited state
        ∧ ∀ later final outcome,
            (∀ event ∈ later, event.Own)
            → Transition.run step state later = some final
            → final.place = .exited outcome
            → outcome = shieldedOutcome final.inner final.deliveries)
      ↔ state.inner ≠ .cancelled := by
  have sound := run_sound reached
  constructor
  · intro ends cancelled
    exact Transition.not_terminates_of_goesOn (fun _ => goesOn_of_cancelled) ⟨sound, cancelled⟩
      ends.1
  · intro notCancelled
    refine ⟨?_, ?_⟩
    · apply Transition.terminates_of_measure (P := Settled) State.stepsLeft
      · exact fun _ _ _ settled _ stepped => step_settled settled stepped
      · exact fun _ _ _ settled own stepped => settled.stepsLeft_lt own stepped
      · exact fun _ settled => goesOn settled.sound settled.done
      · exact ⟨sound, done, notCancelled⟩
    · intro later final outcome _ onwards exited
      have finalSound := Transition.run_preserves (fun _ _ _ => step_sound) sound onwards
      rw [State.Sound, exited] at finalSound
      exact finalSound.2.2

/-- A cancellation comes before the task returns. -/
theorem shieldWaitForever_ends_cancelledOnce
    : ∃ (events : List (Event String Nat)) (state : State String Nat),
        Transition.run step (.initial .pending) events = some state
        ∧ state.deliveries = 1
        ∧ Transition.Terminates step Event.Own State.Exited state := by
  let state : State String Nat :=
    { inner := .success 7, place := .looping true, deliveries := 1 }
  have reached : Transition.run step (.initial .pending)
      [.iterate, .cancel, .resume, .innerEnds (.success 7)] = some state := rfl
  exact ⟨_, state, reached, rfl, ((shieldWaitForever_ends_iff reached rfl).mpr (by simp [state])).1⟩

/-- A task that ends as cancelled, with nobody cancelling the caller, is awaited again and again.
-/
theorem shieldWaitForever_loops_on_cancelled
    : ∃ (events : List (Event String Nat)) (state : State String Nat),
        Transition.run step (.initial .pending) events = some state
        ∧ state.inner = .cancelled
        ∧ state.deliveries = 0
        ∧ ¬Transition.Terminates step Event.Own State.Exited state := by
  let state : State String Nat :=
    { inner := .cancelled, place := .shielding false .new, deliveries := 0 }
  have reached : Transition.run step (.initial .pending) [.iterate, .innerEnds .cancelled]
      = some state :=
    rfl
  exact ⟨_, state, reached, rfl, rfl,
    Transition.not_terminates_of_goesOn (fun _ => goesOn_of_cancelled) ⟨run_sound reached, rfl⟩⟩

end Aiodrive.ShieldWaitForever
