import Aiodrive.Debounce.Model

/-! When `debounce()` calls the function, and what becomes of a call. -/

namespace Aiodrive.Debounce

variable {ε β : Type*} {delay : Nat} {state next final : State ε β} {event : Event ε β}

/-- Every step is one of the moves. -/
theorem move_of_step (stepped : step delay state event = some next)
    : Move delay state event next := by
  simp only [step, Option.ite_none_right_eq_some] at stepped
  obtain ⟨made, stepped⟩ := stepped
  cases event with
  | tick => exact Option.some.inj stepped ▸ .ticks
  | call => exact Option.some.inj stepped ▸ .calls
  | start id =>
      have made : id < state.count := made id rfl
      simp only [stepCall] at stepped
      split at stepped
      case h_1 asked here =>
          refine Option.some.inj stepped ▸ .works made ?_
          rw [here]
          cases asked with
          | true => exact .drops
          | false => exact .starts
      all_goals contradiction
  | fire id =>
      have made : id < state.count := made id rfl
      simp only [stepCall] at stepped
      split at stepped
      case h_1 here =>
          simp only [Option.ite_none_right_eq_some] at stepped
          obtain ⟨due, same⟩ := stepped
          exact Option.some.inj same ▸ .works made (here ▸ .fires due)
      all_goals contradiction
  | wake id =>
      have made : id < state.count := made id rfl
      simp only [stepCall] at stepped
      split at stepped
      case h_1 wakeAt fired asked here =>
          simp only [Option.ite_none_right_eq_some, Bool.or_eq_true] at stepped
          obtain ⟨woken, same⟩ := stepped
          obtain rfl := Option.some.inj same
          cases asked with
          | true => exact .works made (here ▸ .catches)
          | false =>
              obtain rfl : fired = true := by simpa using woken
              exact .enters made here
      all_goals contradiction
  | finish id ended =>
      have made : id < state.count := made id rfl
      simp only [stepCall] at stepped
      split at stepped
      case h_1 asked here =>
          simp only [Option.ite_none_right_eq_some] at stepped
          obtain ⟨done, same⟩ := stepped
          exact Option.some.inj same ▸ .works made (here ▸ .finishes done)
      all_goals contradiction
  | cancel id =>
      have made : id < state.count := made id rfl
      simp only [stepCall] at stepped
      split at stepped
      case h_1 waits =>
          obtain rfl := Option.some.inj stepped
          unfold State.cancel
          split
          · rename_i done
            cases here : (state.calls id).job with
            | ended result => exact .interrupts made waits here
            | unstarted _ | sleeping _ _ _ | calling _ => simp [here, Job.done] at done
          · rename_i undone
            exact .works made (.cancels (by simpa using undone))
      case h_2 => contradiction
  | resume id =>
      have made : id < state.count := made id rfl
      simp only [stepCall] at stepped
      split at stepped
      case h_1 waits here => exact Option.some.inj stepped ▸ .leaves made waits here
      all_goals contradiction

-----------------------------------------------------------------------------------------
-- The places of a task
-----------------------------------------------------------------------------------------

/-- The task has been asked to cancel, or has ended. -/
def Job.Asked : Job ε β → Prop
  | unstarted asked | sleeping _ _ asked | calling asked => asked = true
  | ended _ => True

/-- The task has not got to the function. -/
def Job.Early : Job ε β → Prop
  | unstarted _ | sleeping _ _ _ => True
  | calling _ | ended _ => False

/-- The sleep of a task since some time fits the clock. -/
def Job.Timed (delay since now : Nat) : Job ε β → Prop
  | sleeping wakeAt fired _ => since + delay ≤ wakeAt ∧ (fired = true → wakeAt ≤ now)
  | unstarted _ | calling _ | ended _ => True

theorem asked_cancel (job : Job ε β) : job.cancel.Asked := by
  cases job <;> simp [Job.cancel, Job.Asked]

@[simp] theorem early_cancel (job : Job ε β) : job.cancel.Early ↔ job.Early := by
  cases job <;> rfl

theorem Job.Timed.cancel {since : Nat} {job : Job ε β} (timed : job.Timed delay since state.now)
    : job.cancel.Timed delay since state.now := by
  cases job <;> exact timed

theorem Job.Timed.later {since now later : Nat} {job : Job ε β} (timed : job.Timed delay since now)
    (goesOn : now ≤ later)
    : job.Timed delay since later := by
  cases job with
  | sleeping wakeAt fired asked => exact ⟨timed.1, fun rang => Nat.le_trans (timed.2 rang) goesOn⟩
  | unstarted _ | calling _ | ended _ => trivial

variable {id : Nat} {job after : Job ε β}

/-- A step of a task leaves it asked to cancel, keeps it in time, and does not lead it back. -/
theorem JobMove.keeps {since : Nat} (moves : JobMove delay state id event job after)
    (begun : since ≤ state.now) (timed : job.Timed delay since state.now)
    : (job.Asked → after.Asked)
      ∧ after.Timed delay since state.now
      ∧ (after.Early → job.Early) := by
  cases moves with
  | drops => exact ⟨fun _ => trivial, trivial, fun early => early.elim⟩
  | starts =>
      exact ⟨fun asked => asked, ⟨Nat.add_le_add_right begun delay, by simp⟩, fun _ => trivial⟩
  | fires due => exact ⟨fun asked => asked, ⟨timed.1, fun _ => due⟩, fun _ => trivial⟩
  | catches => exact ⟨fun _ => trivial, trivial, fun early => early.elim⟩
  | finishes => exact ⟨fun _ => trivial, trivial, fun early => early.elim⟩
  | cancels => exact ⟨fun _ => asked_cancel job, timed.cancel, (early_cancel job).mp⟩

-----------------------------------------------------------------------------------------
-- The calls of the function
-----------------------------------------------------------------------------------------

/-- What holds of the calls in every state. -/
structure Ordered (delay : Nat) (state : State ε β) : Prop where
  begun : ∀ id < state.count, (state.calls id).since ≤ state.now
  sorted
    : ∀ id other,
        id ≤ other → other < state.count → (state.calls id).since ≤ (state.calls other).since
  timed
    : ∀ id < state.count,
        (state.calls id).job.Timed delay (state.calls id).since state.now
  superseded : ∀ id, id + 1 < state.count → (state.calls id).job.Asked

/-- What holds of the calls of the function so far. -/
structure Spaced (delay : Nat) (state : State ε β) : Prop where
  made : ∀ entry ∈ state.entries, entry.call < state.count ∧ entry.time ≤ state.now
  entered : ∀ entry ∈ state.entries, ¬(state.calls entry.call).job.Early
  late
    : ∀ entry ∈ state.entries, (state.calls entry.call).since + delay ≤ entry.time
  last
    : ∀ entry ∈ state.entries, ∀ other < state.count,
        entry.call < other → entry.time ≤ (state.calls other).since
  apart
    : state.entries.Pairwise (fun earlier later =>
        earlier.call < later.call ∧ earlier.time + delay ≤ later.time)

theorem ordered_initial : Ordered delay (.initial : State ε β) := by
  constructor <;> simp [State.initial]

theorem spaced_initial : Spaced delay (.initial : State ε β) := by
  constructor <;> simp [State.initial]

theorem job_setJob (state : State ε β) (id other : Nat) (job : Job ε β)
    : ((state.setJob id job).calls other).job
      = if other = id then job else (state.calls other).job := by
  by_cases same : other = id
  · subst same
    simp [State.setJob]
  · simp [State.setJob, same]

@[simp] theorem since_setJob (state : State ε β) (id other : Nat) (job : Job ε β)
    : ((state.setJob id job).calls other).since = (state.calls other).since := by
  by_cases same : other = id
  · subst same
    simp [State.setJob]
  · simp [State.setJob, Function.update_of_ne same]

@[simp] theorem job_setCaller (state : State ε β) (id other : Nat) (caller : Caller ε β)
    : ((state.setCaller id caller).calls other).job = (state.calls other).job := by
  by_cases same : other = id
  · subst same
    simp [State.setCaller]
  · simp [State.setCaller, Function.update_of_ne same]

@[simp] theorem since_setCaller (state : State ε β) (id other : Nat) (caller : Caller ε β)
    : ((state.setCaller id caller).calls other).since = (state.calls other).since := by
  by_cases same : other = id
  · subst same
    simp [State.setCaller]
  · simp [State.setCaller, Function.update_of_ne same]

@[simp] theorem caller_setJob (state : State ε β) (id other : Nat) (job : Job ε β)
    : ((state.setJob id job).calls other).caller = (state.calls other).caller := by
  by_cases same : other = id
  · subst same
    simp [State.setJob]
  · simp [State.setJob, Function.update_of_ne same]

theorem caller_setCaller (state : State ε β) (id other : Nat) (caller : Caller ε β)
    : ((state.setCaller id caller).calls other).caller
      = if other = id then caller else (state.calls other).caller := by
  by_cases same : other = id
  · subst same
    simp [State.setCaller]
  · simp [State.setCaller, same]

/-- A new call leaves those before it. -/
theorem calls_create_of_lt {id : Nat} (made : id < state.count)
    : state.create.calls id = state.calls id :=
  Function.update_of_ne (Nat.ne_of_lt made) _ _

theorem calls_create_count (state : State ε β)
    : state.create.calls state.count = ⟨state.now, .unstarted false, .awaiting false⟩ :=
  Function.update_self _ _ _

theorem Ordered.setJob (ordered : Ordered delay state) {id : Nat} {job : Job ε β}
    (asked : (state.calls id).job.Asked → job.Asked)
    (timed : job.Timed delay (state.calls id).since state.now)
    : Ordered delay (state.setJob id job) := by
  refine ⟨?_, ?_, ?_, ?_⟩
  · intro other made
    rw [since_setJob]
    exact ordered.begun other made
  · intro other later before made
    rw [since_setJob, since_setJob]
    exact ordered.sorted other later before made
  · intro other made
    rw [since_setJob, job_setJob]
    split
    · rename_i same
      exact same ▸ timed
    · exact ordered.timed other made
  · intro other made
    rw [job_setJob]
    split
    · rename_i same
      exact asked (same ▸ ordered.superseded other made)
    · exact ordered.superseded other made

theorem Spaced.setJob (spaced : Spaced delay state) {id : Nat} {job : Job ε β}
    (early : job.Early → (state.calls id).job.Early)
    : Spaced delay (state.setJob id job) := by
  refine ⟨spaced.made, ?_, ?_, ?_, spaced.apart⟩
  · intro entry member
    rw [job_setJob]
    split
    · rename_i same
      exact fun here => spaced.entered entry member (same ▸ early here)
    · exact spaced.entered entry member
  · intro entry member
    rw [since_setJob]
    exact spaced.late entry member
  · intro entry member other made after
    rw [since_setJob]
    exact spaced.last entry member other made after

theorem Ordered.setCaller (ordered : Ordered delay state) (id : Nat) (caller : Caller ε β)
    : Ordered delay (state.setCaller id caller) := by
  refine ⟨?_, ?_, ?_, ?_⟩
  · intro other made
    rw [since_setCaller]
    exact ordered.begun other made
  · intro other later before made
    rw [since_setCaller, since_setCaller]
    exact ordered.sorted other later before made
  · intro other made
    rw [since_setCaller, job_setCaller]
    exact ordered.timed other made
  · intro other made
    rw [job_setCaller]
    exact ordered.superseded other made

theorem Spaced.setCaller (spaced : Spaced delay state) (id : Nat) (caller : Caller ε β)
    : Spaced delay (state.setCaller id caller) := by
  refine ⟨spaced.made, ?_, ?_, ?_, spaced.apart⟩
  · intro entry member
    rw [job_setCaller]
    exact spaced.entered entry member
  · intro entry member
    rw [since_setCaller]
    exact spaced.late entry member
  · intro entry member other made after
    rw [since_setCaller]
    exact spaced.last entry member other made after

/-- The clock goes on. -/
theorem Ordered.tick (ordered : Ordered delay state)
    : Ordered delay { state with now := state.now + 1 } :=
  ⟨fun id made => Nat.le_succ_of_le (ordered.begun id made), ordered.sorted,
    fun id made => (ordered.timed id made).later (Nat.le_succ _), ordered.superseded⟩

theorem Spaced.tick (spaced : Spaced delay state)
    : Spaced delay { state with now := state.now + 1 } :=
  ⟨fun entry member =>
      ⟨(spaced.made entry member).1, Nat.le_succ_of_le (spaced.made entry member).2⟩,
    spaced.entered, spaced.late, spaced.last, spaced.apart⟩

/-- A call is made, after the task of the last one has been asked to cancel. -/
theorem Ordered.create (ordered : Ordered delay state)
    (asked : ∀ id < state.count, (state.calls id).job.Asked)
    : Ordered delay state.create := by
  have old {id : Nat} (made : id < state.count) := calls_create_of_lt made
  have new := calls_create_count state
  have cases {id : Nat} (made : id < state.count + 1) : id < state.count ∨ id = state.count :=
    Nat.lt_or_eq_of_le (Nat.le_of_lt_succ made)
  refine ⟨?_, ?_, ?_, ?_⟩
  · intro id made
    rcases cases made with before | rfl
    · rw [old before]
      exact ordered.begun id before
    · rw [new]
      exact Nat.le_refl _
  · intro id other before made
    rcases cases made with earlier | rfl
    · rw [old earlier, old (Nat.lt_of_le_of_lt before earlier)]
      exact ordered.sorted id other before earlier
    · rcases cases (Nat.lt_succ_of_le before) with earlier | rfl
      · rw [old earlier, new]
        exact ordered.begun id earlier
      · exact Nat.le_refl _
  · intro id made
    rcases cases made with before | rfl
    · rw [old before]
      exact ordered.timed id before
    · rw [new]
      trivial
  · intro id made
    have before : id < state.count := Nat.lt_of_succ_lt_succ made
    rw [old before]
    exact asked id before

theorem Spaced.create (spaced : Spaced delay state) : Spaced delay state.create := by
  have old {id : Nat} (made : id < state.count) := calls_create_of_lt made
  refine ⟨?_, ?_, ?_, ?_, spaced.apart⟩
  · exact fun entry member =>
      ⟨Nat.lt_succ_of_lt (spaced.made entry member).1, (spaced.made entry member).2⟩
  · intro entry member
    rw [old (spaced.made entry member).1]
    exact spaced.entered entry member
  · intro entry member
    rw [old (spaced.made entry member).1]
    exact spaced.late entry member
  · intro entry member other made after
    rcases Nat.lt_or_eq_of_le (Nat.le_of_lt_succ made) with before | rfl
    · rw [old before]
      exact spaced.last entry member other before after
    · simpa [State.create] using (spaced.made entry member).2

theorem Ordered.asked_cancelLast (ordered : Ordered delay state)
    : ∀ id < state.cancelLast.count, (state.cancelLast.calls id).job.Asked := by
  unfold State.cancelLast
  split
  · rename_i none
    simp [none]
  · rename_i last same
    intro id made
    rw [job_setJob]
    split
    · exact asked_cancel _
    · rename_i other
      have made : id < state.count := made
      exact ordered.superseded id (by omega)

theorem Ordered.cancelLast (ordered : Ordered delay state) : Ordered delay state.cancelLast := by
  unfold State.cancelLast
  split
  · exact ordered
  · rename_i last same
    refine ordered.setJob (fun _ => asked_cancel _) (Job.Timed.cancel ?_)
    exact ordered.timed last (by omega)

theorem Spaced.cancelLast (spaced : Spaced delay state) : Spaced delay state.cancelLast := by
  unfold State.cancelLast
  split
  · exact spaced
  · exact spaced.setJob (early_cancel _).mp

/-- A task that enters the function is the one of the last call: the others have been asked to
cancel. So the entries before it are of calls before it, and its own sleep lies in between.
-/
theorem Spaced.enter (spaced : Spaced delay state) (ordered : Ordered delay state) {id wakeAt : Nat}
    (made : id < state.count) (here : (state.calls id).job = .sleeping wakeAt true false)
    : Spaced delay
        { state.setJob id (.calling false) with entries := state.entries ++ [⟨id, state.now⟩] } := by
  have isLast : id + 1 = state.count := by
    by_contra other
    have asked := ordered.superseded id (by omega)
    simp [here, Job.Asked] at asked
  obtain ⟨slept, rang⟩
      : (state.calls id).since + delay ≤ wakeAt ∧ (true = true → wakeAt ≤ state.now)
      := by
    have timed := ordered.timed id made
    rwa [here] at timed
  have inTime : (state.calls id).since + delay ≤ state.now := Nat.le_trans slept (rang rfl)
  have before : Spaced delay (state.setJob id (.calling false)) := by
    refine spaced.setJob (fun early => ?_)
    exact early.elim
  have earlier (entry : Entry) (member : entry ∈ state.entries) : entry.call < id := by
    have known := (spaced.made entry member).1
    have other : entry.call ≠ id := by
      intro same
      have entered := spaced.entered entry member
      simp [same, here, Job.Early] at entered
    omega
  refine ⟨?_, ?_, ?_, ?_, ?_⟩
  · exact List.forall_mem_append.mpr ⟨before.made, by simpa using ⟨made, Nat.le_refl _⟩⟩
  · refine List.forall_mem_append.mpr ⟨before.entered, ?_⟩
    simp [State.setJob, Job.Early]
  · refine List.forall_mem_append.mpr ⟨before.late, ?_⟩
    simpa using inTime
  · refine List.forall_mem_append.mpr ⟨before.last, ?_⟩
    intro entry member other made after
    obtain rfl := List.mem_singleton.mp member
    have made : other < state.count := made
    have after : id < other := after
    omega
  · refine List.pairwise_append.mpr ⟨spaced.apart, List.pairwise_singleton _ _, ?_⟩
    intro entry member last isNew
    obtain rfl := List.mem_singleton.mp isNew
    have lastCall := spaced.last entry member id made (earlier entry member)
    exact ⟨earlier entry member, by simp only; omega⟩

theorem Ordered.step (ordered : Ordered delay state)
    (stepped : Debounce.step delay state event = some next)
    : Ordered delay next := by
  cases move_of_step stepped with
  | ticks => exact ordered.tick
  | calls => exact ordered.cancelLast.create ordered.asked_cancelLast
  | works made moves =>
      obtain ⟨asked, timed, -⟩ := moves.keeps (ordered.begun _ made) (ordered.timed _ made)
      exact ordered.setJob asked timed
  | @enters id wakeAt made here =>
      have asks : (state.calls id).job.Asked → (Job.calling false : Job ε β).Asked := by
        rw [here]
        exact fun asked => asked
      have called := ordered.setJob asks trivial
      exact ⟨called.begun, called.sorted, called.timed, called.superseded⟩
  | interrupts | leaves => exact ordered.setCaller _ _

theorem Spaced.step (spaced : Spaced delay state) (ordered : Ordered delay state)
    (stepped : Debounce.step delay state event = some next)
    : Spaced delay next := by
  cases move_of_step stepped with
  | ticks => exact spaced.tick
  | calls => exact spaced.cancelLast.create
  | works made moves =>
      exact spaced.setJob (moves.keeps (ordered.begun _ made) (ordered.timed _ made)).2.2
  | enters made here => exact spaced.enter ordered made here
  | interrupts | leaves => exact spaced.setCaller _ _

/-- However the calls, the timers, the cancellations and the ends of the function interleave: each
call of the function comes at least the delay after the call of `debounced()` that it is for, and
every call made since then was made no earlier than it; and two calls of the function are at least
the delay apart, even where the first one goes on. Each call of `debounced()` but the last has ended
or has been asked to cancel.
-/
theorem debounce_spaces {events : List (Event ε β)}
    (reached : Transition.run (step delay) .initial events = some final)
    : final.entries.Pairwise (fun earlier later =>
          earlier.call < later.call ∧ earlier.time + delay ≤ later.time)
      ∧ (∀ entry ∈ final.entries,
        (final.calls entry.call).since + delay ≤ entry.time
        ∧ ∀ other < final.count,
            entry.call < other → entry.time ≤ (final.calls other).since)
      ∧ ∀ id, id + 1 < final.count → (final.calls id).job.Asked := by
  have holds : Ordered delay final ∧ Spaced delay final :=
    Transition.run_preserves (P := fun state => Ordered delay state ∧ Spaced delay state)
      (fun _ _ _ holds stepped => ⟨holds.1.step stepped, holds.2.step holds.1 stepped⟩)
      ⟨ordered_initial, spaced_initial⟩ reached
  obtain ⟨ordered, spaced⟩ := holds
  exact ⟨spaced.apart,
    fun entry member => ⟨spaced.late entry member, spaced.last entry member⟩,
    ordered.superseded⟩

/-- Three calls, of which the second one is made while the function is called for the first, and the
third one while the second one sleeps.
-/
theorem debounce_spaces_threeCalls
    : ∃ final : State String Nat,
        Transition.run (step 2) .initial
            [.call, .start 0, .tick, .tick, .fire 0, .wake 0, .tick, .call, .start 1, .call, .start 2,
              .wake 1, .tick, .tick, .fire 2, .wake 2]
          = some final
        ∧ final.entries = [⟨0, 2⟩, ⟨2, 5⟩]
        ∧ final.entries.Pairwise (fun earlier later =>
            earlier.call < later.call ∧ earlier.time + 2 ≤ later.time) := by
  have reached : Transition.run (step 2) (.initial : State String Nat)
      [.call, .start 0, .tick, .tick, .fire 0, .wake 0, .tick, .call, .start 1, .call, .start 2,
        .wake 1, .tick, .tick, .fire 2, .wake 2] = some _ := rfl
  exact ⟨_, reached, rfl, (debounce_spaces reached).1⟩

end Aiodrive.Debounce
