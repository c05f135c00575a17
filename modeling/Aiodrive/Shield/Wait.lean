import Aiodrive.Shield.Model
import Aiodrive.Transition.Runs

/-! `shield_wait()` of `modules/shield.py`: a task that shields its awaitable from the first
`shield_count` cancellations, and lets the later ones through.
-/

namespace Aiodrive.ShieldWait

variable {ε α : Type*}

/-- Where `shield_wait()` is: at `await shield(task)`, with `left` iterations of the `for` to
come; at `await task`, where a cancellation is on its way to the caller or not; or at its end.
-/
inductive Place (ε α : Type*) where
  | shielding (left : Nat) (cancelled : Bool) (waiter : Shielded ε α)
  | passing (cancelled interrupted : Bool)
  | exited (outcome : Outcome ε α)
deriving DecidableEq, Repr

/-- `result = await task`, up to its suspension or the end. -/
def awaitTask (inner : FutureState ε α) (cancelled : Bool) : Place ε α :=
  match inner with
  | .pending => .passing cancelled false
  | .success result => .exited (finishShielded cancelled result)
  | .cancelled | .exception _ => .exited inner.result

/-- The `for` from an iteration on. Awaiting a done task does not suspend. -/
def iterate (inner : FutureState ε α) : Nat → Bool → Place ε α
  | 0, cancelled => awaitTask inner cancelled
  | left + 1, cancelled =>
      match inner with
      | .pending => .shielding left cancelled .new
      | .cancelled => iterate inner left true
      | .success result => .exited (finishShielded cancelled result)
      | .exception _ => .exited inner.result

/-- The `for` where `await shield(task)` resumes with a result. -/
def resumeShield (inner : FutureState ε α) (left : Nat) (cancelled : Bool)
    (result : FutureState ε α)
    : Place ε α :=
  match result with
  | .success value => .exited (finishShielded cancelled value)
  | .cancelled => iterate inner left true
  | .exception _ | .pending => .exited result.result

/-- The task, `shield_wait()`, and the cancellations that were delivered to its caller, with
the numbers of those that it passed on to the task.
-/
structure State (ε α : Type*) where
  inner : FutureState ε α
  place : Place ε α
  deliveries : Nat
  passed : List Nat
deriving DecidableEq, Repr

def State.initial (shieldCount : Int) (inner : FutureState ε α) : State ε α :=
  { inner
    place :=
      if shieldCount ≤ 0 then awaitTask inner false else iterate inner shieldCount.toNat false
    deliveries := 0
    passed := [] }

/-- What can happen: the task ends, the callback of its shield runs, the caller is cancelled, or
resumes.
-/
inductive Event (ε α : Type*) where
  | innerEnds (ended : FutureState ε α)
  | innerCallback
  | cancel
  | resume
deriving DecidableEq, Repr

/-- A cancellation is delivered, unless one is already on its way. -/
def deliver (deliveries : Nat) (interrupted : Bool) : Nat :=
  if interrupted then deliveries else deliveries + 1

def step (state : State ε α) : Event ε α → Option (State ε α)
  | .innerEnds ended =>
      if state.inner.done || !ended.done then none else some { state with inner := ended }
  | .innerCallback =>
      match state.place with
      | .shielding left cancelled waiter =>
          (waiter.innerCallback state.inner).map (fun waiter =>
            { state with place := .shielding left cancelled waiter })
      | .passing _ _ | .exited _ => none
  | .cancel =>
      match state.place with
      | .shielding left cancelled waiter =>
          some { state with
            place := .shielding left cancelled waiter.cancel
            deliveries := deliver state.deliveries waiter.interrupted }
      | .passing cancelled interrupted =>
          -- A pending task takes the request over
          if state.inner.done then
            some { state with
              place := .passing cancelled true
              deliveries := deliver state.deliveries interrupted }
          else
            some { state with
              deliveries := state.deliveries + 1
              passed := state.passed ++ [state.deliveries + 1] }
      | .exited _ => none
  | .resume =>
      match state.place with
      | .shielding left cancelled waiter =>
          waiter.result?.map (fun result =>
            { state with place := resumeShield state.inner left cancelled result })
      | .passing cancelled interrupted =>
          if state.inner.done then
            some { state with
              place :=
                if interrupted then .exited (.raised .cancelledError)
                else awaitTask state.inner cancelled }
          else
            none
      | .exited _ => none

-----------------------------------------------------------------------------------------
-- The moves
-----------------------------------------------------------------------------------------

/-- The steps, one constructor for each branch. -/
inductive Move : State ε α → Event ε α → State ε α → Prop where
  | ends {ended : FutureState ε α} {place : Place ε α} {deliveries : Nat} {passed : List Nat}
    (done : ended.done = true)
    : Move { inner := .pending, place, deliveries, passed } (.innerEnds ended)
        { inner := ended, place, deliveries, passed }
  | calls {inner : FutureState ε α} {left : Nat} {cancelled : Bool} {waiter called : Shielded ε α}
    {deliveries : Nat} {passed : List Nat} (runs : waiter.innerCallback inner = some called)
    : Move { inner, place := .shielding left cancelled waiter, deliveries, passed } .innerCallback
        { inner, place := .shielding left cancelled called, deliveries, passed }
  | cancels {inner : FutureState ε α} {left : Nat} {cancelled : Bool} {waiter : Shielded ε α}
    {deliveries : Nat} {passed : List Nat}
    : Move { inner, place := .shielding left cancelled waiter, deliveries, passed } .cancel
        { inner
          place := .shielding left cancelled waiter.cancel
          deliveries := deliver deliveries waiter.interrupted
          passed }
  | interrupts {inner : FutureState ε α} {cancelled interrupted : Bool} {deliveries : Nat}
    {passed : List Nat} (done : inner.done = true)
    : Move { inner, place := .passing cancelled interrupted, deliveries, passed } .cancel
        { inner
          place := .passing cancelled true
          deliveries := deliver deliveries interrupted
          passed }
  | passes {cancelled interrupted : Bool} {deliveries : Nat} {passed : List Nat}
    : Move { inner := .pending, place := .passing cancelled interrupted, deliveries, passed }
        .cancel
        { inner := .pending
          place := .passing cancelled interrupted
          deliveries := deliveries + 1
          passed := passed ++ [deliveries + 1] }
  | resumes {inner result : FutureState ε α} {left : Nat} {cancelled : Bool}
    {waiter : Shielded ε α} {deliveries : Nat} {passed : List Nat}
    (resumed : waiter.result? = some result)
    : Move { inner, place := .shielding left cancelled waiter, deliveries, passed } .resume
        { inner, place := resumeShield inner left cancelled result, deliveries, passed }
  | throws {inner : FutureState ε α} {cancelled : Bool} {deliveries : Nat} {passed : List Nat}
    (done : inner.done = true)
    : Move { inner, place := .passing cancelled true, deliveries, passed } .resume
        { inner, place := .exited (.raised .cancelledError), deliveries, passed }
  | finishes {inner : FutureState ε α} {cancelled : Bool} {deliveries : Nat} {passed : List Nat}
    (done : inner.done = true)
    : Move { inner, place := .passing cancelled false, deliveries, passed } .resume
        { inner, place := awaitTask inner cancelled, deliveries, passed }

/-- Every step is one of the moves. -/
theorem move_of_step {state next : State ε α} {event : Event ε α}
    (stepped : step state event = some next)
    : Move state event next := by
  obtain ⟨inner, place, deliveries, passed⟩ := state
  cases event with
  | innerEnds ended =>
      simp only [step, Option.ite_none_left_eq_some, Bool.or_eq_true, not_or] at stepped
      obtain ⟨⟨notDone, done⟩, same⟩ := stepped
      obtain rfl := FutureState.done_eq_false_iff.mp (by simpa using notDone)
      exact Option.some.inj same ▸ .ends (by simpa using done)
  | innerCallback =>
      cases place with
      | shielding left cancelled waiter =>
          obtain ⟨called, runs, rfl⟩ := Option.map_eq_some_iff.mp stepped
          exact .calls runs
      | passing _ _ | exited _ => contradiction
  | cancel =>
      cases place with
      | shielding left cancelled waiter => exact Option.some.inj stepped ▸ .cancels
      | passing cancelled interrupted =>
          simp only [step] at stepped
          split at stepped
          · rename_i done
            exact Option.some.inj stepped ▸ .interrupts done
          · rename_i running
            obtain rfl := FutureState.done_eq_false_iff.mp (by simpa using running)
            exact Option.some.inj stepped ▸ .passes
      | exited _ => contradiction
  | resume =>
      cases place with
      | shielding left cancelled waiter =>
          obtain ⟨result, resumed, rfl⟩ := Option.map_eq_some_iff.mp stepped
          exact .resumes resumed
      | passing cancelled interrupted =>
          simp only [step, Option.ite_none_right_eq_some] at stepped
          obtain ⟨done, same⟩ := stepped
          cases interrupted with
          | true => exact Option.some.inj same ▸ .throws done
          | false => exact Option.some.inj same ▸ .finishes done
      | exited _ => contradiction

/-- `shield_wait()` and its caller do not end the task by themselves. -/
theorem inner_of_step {state next : State ε α} {event : Event ε α}
    (own : ∀ ended, event ≠ .innerEnds ended) (stepped : step state event = some next)
    : next.inner = state.inner := by
  cases move_of_step stepped with
  | ends => exact (own _ rfl).elim
  | calls _ | cancels | interrupts _ | passes | resumes _ | throws _ | finishes _ => rfl

/-- A cancellation is one delivery at most, and is the one passed on if it is passed on. -/
theorem deliveries_of_cancel {state next : State ε α}
    (stepped : step state .cancel = some next)
    : next.deliveries ≤ state.deliveries + 1
      ∧ (next.passed = state.passed ∨ next.passed = state.passed ++ [state.deliveries + 1]) := by
  have once (deliveries : Nat) (interrupted : Bool)
      : deliver deliveries interrupted ≤ deliveries + 1 := by
    cases interrupted <;> simp [deliver]
  cases move_of_step stepped with
  | cancels => exact ⟨once _ _, .inl rfl⟩
  | interrupts _ => exact ⟨once _ _, .inl rfl⟩
  | passes => exact ⟨Nat.le_refl _, .inr rfl⟩

/-- Nothing is delivered by the other steps. -/
theorem deliveries_of_step {state next : State ε α} {event : Event ε α}
    (own : event ≠ .cancel) (stepped : step state event = some next)
    : next.deliveries = state.deliveries := by
  cases move_of_step stepped with
  | ends _ | calls _ | resumes _ | throws _ | finishes _ => rfl
  | cancels | interrupts _ | passes => exact (own rfl).elim

-----------------------------------------------------------------------------------------
-- The shield budget
-----------------------------------------------------------------------------------------

/-- A place that fits the deliveries so far. Each of them takes one iteration of the `for` while
the task is pending.
-/
def Place.Sound (shieldCount : Nat) (inner : FutureState ε α) (deliveries : Nat)
    : Place ε α → Prop
  | .shielding left cancelled waiter =>
      waiter.Sound inner
      ∧ left < shieldCount
      ∧ (cancelled = true ↔ left + 1 < shieldCount)
      ∧ deliveries + left + 1 = shieldCount + waiter.interrupted.toNat
  | .passing cancelled interrupted =>
      cancelled = true
      ∧ shieldCount + interrupted.toNat ≤ deliveries
  | .exited outcome =>
      inner.done = true
      ∧ (0 < deliveries → ∀ value, outcome ≠ .returned value)
      ∧ (deliveries ≤ shieldCount → outcome = shieldedOutcome inner deliveries)

structure Sound (shieldCount : Nat) (state : State ε α) : Prop where
  place : state.place.Sound shieldCount state.inner state.deliveries
  passed : ∀ number ∈ state.passed, shieldCount < number

/-- A cancelled task takes all iterations that are left, by induction on them. -/
theorem iterate_cancelled (left : Nat) (cancelled : Bool)
    : iterate (.cancelled : FutureState ε α) left cancelled
      = .exited (.raised .cancelledError) := by
  induction left generalizing cancelled with
  | zero => rfl
  | succ left ih => exact ih true

/-- The `for` over a task that is done ends as owed. -/
theorem iterate_of_done {inner : FutureState ε α} {deliveries : Nat} (left : Nat)
    {cancelled : Bool} (done : inner.done = true) (told : cancelled = true ↔ 0 < deliveries)
    : iterate inner left cancelled = .exited (shieldedOutcome inner deliveries) := by
  cases inner with
  | pending => contradiction
  | exception error => cases left <;> rfl
  | success value => cases left <;> exact congrArg Place.exited (finishShielded_eq value told)
  | cancelled => exact iterate_cancelled left cancelled

/-- The `for` from where the deliveries so far leave it. -/
theorem iterate_sound {shieldCount left deliveries : Nat} {inner : FutureState ε α}
    {cancelled : Bool} (positive : 0 < shieldCount)
    (told : cancelled = true ↔ 0 < deliveries) (used : deliveries + left = shieldCount)
    : (iterate inner left cancelled).Sound shieldCount inner deliveries := by
  cases done : inner.done with
  | true =>
      rw [iterate_of_done left done told]
      exact ⟨done, shieldedOutcome_ne_returned, fun _ => rfl⟩
  | false =>
      obtain rfl := FutureState.done_eq_false_iff.mp done
      cases left with
      | zero => exact ⟨told.mpr (by omega), by simp; omega⟩
      | succ left =>
          exact ⟨Shielded.sound_new _, by omega, told.trans (by omega), by
            simp only [Shielded.new, Bool.toNat_false]
            omega⟩

theorem initial_sound {shieldCount : Nat} (positive : 0 < shieldCount)
    (inner : FutureState ε α)
    : Sound shieldCount (.initial shieldCount inner) := by
  refine ⟨?_, by simp [State.initial]⟩
  have shields : ¬(shieldCount : Int) ≤ 0 := by omega
  simp only [State.initial, shields, if_false, Int.toNat_natCast]
  exact iterate_sound positive (by simp) (by omega)

-----------------------------------------------------------------------------------------
-- Steps and runs
-----------------------------------------------------------------------------------------

/-- The end of the task fits where `shield_wait()` is. -/
theorem Place.Sound.innerEnds {shieldCount deliveries : Nat} {ended : FutureState ε α}
    {place : Place ε α} (sound : place.Sound shieldCount .pending deliveries)
    : place.Sound shieldCount ended deliveries := by
  cases place with
  | shielding left cancelled waiter => exact ⟨sound.1.innerEnds, sound.2⟩
  | passing cancelled interrupted => exact sound
  | exited outcome => simp [Place.Sound] at sound

/-- `shield_wait()` resumes from `await shield(task)`: with the end of the task, or with a
cancellation, which takes the iteration.
-/
theorem resumeShield_sound {shieldCount left deliveries : Nat} {cancelled : Bool}
    {waiter : Shielded ε α} {inner result : FutureState ε α}
    (sound : (Place.shielding left cancelled waiter).Sound shieldCount inner deliveries)
    (resumed : waiter.result? = some result)
    : (resumeShield inner left cancelled result).Sound shieldCount inner deliveries := by
  obtain ⟨own, within, flag, used⟩ := sound
  rcases own.result resumed with ⟨uninterrupted, rfl, done⟩ | ⟨interrupted, rfl⟩
  · simp only [uninterrupted, Bool.toNat_false, Nat.add_zero] at used
    have told : cancelled = true ↔ 0 < deliveries := flag.trans (by omega)
    have ends : resumeShield result left cancelled result
        = .exited (shieldedOutcome result deliveries) := by
      cases result with
      | pending => contradiction
      | exception error => rfl
      | success value => exact congrArg Place.exited (finishShielded_eq value told)
      | cancelled => exact iterate_cancelled left true
    rw [ends]
    exact ⟨done, shieldedOutcome_ne_returned, fun _ => rfl⟩
  · simp only [interrupted, Bool.toNat_true] at used
    have delivered : 0 < deliveries := by omega
    exact iterate_sound (by omega) (iff_of_true rfl delivered) (by omega)

/-- Every step keeps the budget, by cases on the moves. -/
theorem step_sound {shieldCount : Nat} {state next : State ε α} {event : Event ε α}
    (positive : 0 < shieldCount) (sound : Sound shieldCount state)
    (stepped : step state event = some next)
    : Sound shieldCount next := by
  obtain ⟨own, later⟩ := sound
  cases move_of_step stepped with
  | ends done => exact ⟨own.innerEnds, later⟩
  | calls runs =>
      obtain ⟨_, within, flag, used⟩ := own
      have kept := (Shielded.innerCallback_eq_some runs).2.2
      exact ⟨⟨.innerCallback runs, within, flag, by rw [kept]; exact used⟩, later⟩
  | @cancels inner left cancelled waiter deliveries passed =>
      obtain ⟨shielded, within, flag, used⟩ := own
      refine ⟨⟨shielded.cancel, within, flag, ?_⟩, later⟩
      cases interrupted : waiter.interrupted with
      | true => simpa [deliver, Shielded.cancel, interrupted] using used
      | false =>
          simp only [interrupted, Bool.toNat_false] at used
          simp only [deliver, Shielded.cancel, Bool.toNat_true, Bool.false_eq_true, if_false]
          omega
  | @interrupts inner cancelled interrupted deliveries passed done =>
      obtain ⟨flag, used⟩ := own
      refine ⟨⟨flag, ?_⟩, later⟩
      cases interrupted with
      | true => exact used
      | false =>
          simp only [deliver, Bool.toNat_true, Bool.false_eq_true, if_false]
          exact Nat.succ_le_succ used
  | @passes cancelled interrupted deliveries passed =>
      obtain ⟨flag, used⟩ := own
      refine ⟨⟨flag, Nat.le_succ_of_le used⟩, ?_⟩
      intro number member
      rcases List.mem_append.mp member with earlier | last
      · exact later number earlier
      · obtain rfl := List.mem_singleton.mp last
        have spent : shieldCount ≤ deliveries := Nat.le_of_add_right_le used
        exact Nat.lt_succ_of_le spent
  | resumes resumed => exact ⟨resumeShield_sound own resumed, later⟩
  | @throws inner cancelled deliveries passed done =>
      have spent : shieldCount < deliveries := own.2
      exact ⟨⟨done, by simp, fun few => absurd spent (Nat.not_lt.mpr few)⟩, later⟩
  | @finishes inner cancelled deliveries passed done =>
      obtain ⟨flag, used⟩ := own
      have delivered : 0 < deliveries := Nat.lt_of_lt_of_le positive used
      have told : cancelled = true ↔ 0 < deliveries := iff_of_true flag delivered
      have ends : awaitTask inner cancelled = .exited (shieldedOutcome inner deliveries) :=
        iterate_of_done 0 done told
      refine ⟨?_, later⟩
      rw [ends]
      exact ⟨done, shieldedOutcome_ne_returned, fun _ => rfl⟩

/-- `shield_wait()` makes no request on its task for the first `shield_count` deliveries, ends
with the task done, and does not return after a delivery. Where no more than `shield_count`
are delivered, it ends as owed.
-/
theorem shieldWait_law {shieldCount : Nat} {inner : FutureState ε α}
    {events : List (Event ε α)} {final : State ε α} (positive : 1 ≤ shieldCount)
    (reached : Transition.run step (.initial shieldCount inner) events = some final)
    : (∀ number ∈ final.passed, shieldCount < number)
      ∧ ∀ outcome,
          final.place = .exited outcome
          → final.inner.done = true
            ∧ (0 < final.deliveries → ∀ value, outcome ≠ .returned value)
            ∧ (final.deliveries ≤ shieldCount
              → outcome = shieldedOutcome final.inner final.deliveries) := by
  have sound := Transition.run_preserves (fun _ _ _ => step_sound positive)
    (initial_sound positive inner) reached
  refine ⟨sound.passed, ?_⟩
  intro outcome exited
  have place := sound.place
  rw [exited] at place
  exact place

/-- Two cancellations meet a budget of one, and the task suppresses the one passed on to it. -/
theorem shieldWait_law_passedOn
    : ∃ (events : List (Event String Nat)) (final : State String Nat),
        Transition.run step (.initial (1 : Nat) .pending) events = some final
        ∧ final.place = .exited (.raised .cancelledError)
        ∧ final.passed = [2]
        ∧ final.inner.done = true := by
  let final : State String Nat :=
    { inner := .success 7, place := .exited (.raised .cancelledError), deliveries := 2,
      passed := [2] }
  have reached : Transition.run step (.initial (1 : Nat) .pending)
      [.cancel, .resume, .cancel, .innerEnds (.success 7), .resume] = some final := rfl
  exact ⟨_, final, reached, rfl, rfl, ((shieldWait_law (by decide) reached).2 _ rfl).1⟩

end Aiodrive.ShieldWait
