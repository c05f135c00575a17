import Aiodrive.Debounce.Calls

/-! What a call of `debounced()` returns or raises. -/

namespace Aiodrive.Debounce

variable {ε β : Type*} {delay : Nat} {state next final : State ε β} {event : Event ε β} {id : Nat}

/-- The task of the call is asked to cancel before its first step, or its caller is asked past the
end of the task.
-/
def Unheard (id : Nat) (state : State ε β) (event : Event ε β) : Prop :=
  match (state.calls id).job with
  | .unstarted _ => event = .cancel id ∨ event = .call ∧ state.count = id + 1
  | .ended _ => event = .cancel id
  | .sleeping _ _ _ | .calling _ => False

/-- What an outcome of a call tells of the events so far: `past` has them, and `count` calls
have been made.
-/
def Tells (past : List (Event ε β)) (count id : Nat) : FutureState ε (Option β) → Prop
  | .success (some value) => .finish id (.success value) ∈ past
  | .exception error => .finish id (.exception error) ∈ past
  | .success none => .finish id .cancelled ∈ past ∨ .cancel id ∈ past ∨ id + 1 < count
  | .cancelled => True
  | .pending => False

/-- What the place of a call tells of them; `unheard` is whether one of them was `Unheard`. -/
inductive Traced (past : List (Event ε β)) (count id : Nat) (unheard : Prop)
    : Job ε β → Caller ε β → Prop where
  | unstarted {asked : Bool} (told : unheard ↔ asked = true)
    : Traced past count id unheard (.unstarted asked) (.awaiting false)
  | sleeping {wakeAt : Nat} {fired asked : Bool} (heard : ¬unheard)
    (reason : asked = true → .cancel id ∈ past ∨ id + 1 < count)
    : Traced past count id unheard (.sleeping wakeAt fired asked) (.awaiting false)
  | calling {asked : Bool} (heard : ¬unheard)
    : Traced past count id unheard (.calling asked) (.awaiting false)
  | ended {result : FutureState ε (Option β)} {interrupted : Bool}
    (told : unheard ↔ result = .cancelled ∨ interrupted = true)
    (tells : Tells past count id result)
    : Traced past count id unheard (.ended result) (.awaiting interrupted)
  | left {result outcome : FutureState ε (Option β)} (told : unheard ↔ outcome = .cancelled)
    (tells : Tells past count id outcome)
    : Traced past count id unheard (.ended result) (.left outcome)

theorem Tells.mono {past later : List (Event ε β)} {count more : Nat}
    {outcome : FutureState ε (Option β)} (tells : Tells past count id outcome)
    (grows : ∀ event ∈ past, event ∈ later) (calls : count ≤ more)
    : Tells later more id outcome := by
  match outcome, tells with
  | .success (some _), told | .exception _, told => exact grows _ told
  | .success none, told =>
      exact told.imp (grows _) (Or.imp (grows _) (fun before => Nat.lt_of_lt_of_le before calls))
  | .cancelled, _ => trivial

/-- What the end of the function makes of a call. -/
theorem tells_returned {past : List (Event ε β)} {count : Nat} {ended : FutureState ε β}
    (done : ended.done = true) (finished : .finish id ended ∈ past)
    : Tells past count id (returned ended) ∧ returned ended ≠ .cancelled := by
  cases ended with
  | pending => contradiction
  | cancelled => exact ⟨.inl finished, by simp [returned]⟩
  | exception error => exact ⟨finished, by simp [returned]⟩
  | success value => exact ⟨finished, by simp [returned]⟩

variable {past : List (Event ε β)} {count more : Nat} {unheard after : Prop} {job : Job ε β}
  {caller : Caller ε β}

/-- An event that is not about a call leaves it traced. -/
theorem Traced.mono {later : List (Event ε β)} (traced : Traced past count id unheard job caller)
    (grows : ∀ event ∈ past, event ∈ later) (calls : count ≤ more) (same : after ↔ unheard)
    : Traced later more id after job caller := by
  cases traced with
  | unstarted told => exact .unstarted (same.trans told)
  | sleeping heard reason =>
      refine .sleeping (same.not.mpr heard) fun asked => ?_
      exact (reason asked).imp (grows _) (fun before => Nat.lt_of_lt_of_le before calls)
  | calling heard => exact .calling (same.not.mpr heard)
  | ended told tells => exact .ended (same.trans told) (tells.mono grows calls)
  | left told tells => exact .left (same.trans told) (tells.mono grows calls)

/-- A task that has not ended is asked to cancel, by its caller or by the next call. -/
theorem Traced.cancel (traced : Traced past count id unheard job caller)
    (undone : job.done = false) (reason : .cancel id ∈ past ∨ id + 1 < count)
    (told : after ↔ unheard ∨ ∃ asked, job = .unstarted asked)
    : Traced past count id after job.cancel caller := by
  cases traced with
  | unstarted => exact .unstarted (iff_of_true (told.mpr (.inr ⟨_, rfl⟩)) rfl)
  | sleeping heard => exact .sleeping (by simpa [told] using heard) fun _ => reason
  | calling heard => exact .calling (by simpa [told] using heard)
  | ended | left => contradiction

-----------------------------------------------------------------------------------------
-- The steps of a call
-----------------------------------------------------------------------------------------

/-- What a step of the task of the call tells. -/
theorem Traced.works {job' : Job ε β} (traced : Traced past count id unheard job caller)
    (here : (state.calls id).job = job) (moves : JobMove delay state id event job job')
    (told : after ↔ unheard ∨ Unheard id state event)
    : Traced (past ++ [event]) count id after job' caller := by
  have grows : ∀ earlier ∈ past, earlier ∈ past ++ [event] :=
    fun earlier => List.mem_append_left [event]
  have now : event ∈ past ++ [event] := by simp
  cases moves with
  | drops =>
      cases traced with
      | unstarted asked =>
          exact .ended (iff_of_true (told.mpr (.inl (asked.mpr rfl))) (.inl rfl)) trivial
  | starts =>
      cases traced with
      | unstarted asked =>
          have heard : ¬after := by simp [told, asked, Unheard, here]
          exact .sleeping heard (by simp)
  | fires =>
      cases traced with
      | sleeping heard => exact .sleeping (by simpa [told, Unheard, here] using heard) (by simp)
  | catches =>
      cases traced with
      | sleeping heard reason =>
          have heard : ¬after := by simpa [told, Unheard, here] using heard
          exact .ended (iff_of_false heard (by simp)) (.inr ((reason rfl).imp_left (grows _)))
  | @finishes ended asked done =>
      cases traced with
      | calling heard =>
          have heard : ¬after := by simpa [told, Unheard, here] using heard
          obtain ⟨tells, raised⟩ := @tells_returned _ _ id _ count _ done now
          exact .ended (iff_of_false heard (by simpa using raised)) tells
  | cancels undone =>
      have traced := traced.mono grows (Nat.le_refl count) Iff.rfl
      refine traced.cancel undone (.inl now) (told.trans (or_congr_right ?_))
      cases job <;> simp_all [Unheard, Job.done]

/-- What the end of the call tells, or a request that comes past the end of its task. -/
theorem Traced.moves {result : FutureState ε (Option β)} {interrupted : Bool}
    (traced : Traced past count id unheard (.ended result) (.awaiting interrupted))
    (here : (state.calls id).job = .ended result)
    (told : after ↔ unheard ∨ Unheard id state event)
    : (event = .cancel id
        → Traced (past ++ [event]) count id after (.ended result) (.awaiting true))
      ∧ (event ≠ .cancel id
        → Traced (past ++ [event]) count id after (.ended result)
            (.left (if interrupted then .cancelled else result))) := by
  have grows : ∀ earlier ∈ past, earlier ∈ past ++ [event] :=
    fun earlier => List.mem_append_left [event]
  cases traced with
  | ended before tells =>
      have tells := tells.mono grows (Nat.le_refl count)
      constructor
      · rintro rfl
        exact .ended (iff_of_true (told.mpr (.inr (by simp [Unheard, here]))) (.inr rfl)) tells
      · intro other
        have same : after ↔ result = .cancelled ∨ interrupted = true := by
          simpa [told, Unheard, here, other] using before
        cases interrupted with
        | true => exact .left (by simp [same]) trivial
        | false => exact .left (by simpa using same) tells

-----------------------------------------------------------------------------------------
-- Runs
-----------------------------------------------------------------------------------------

/-- What goes unheard is a request of the caller, or the next call. -/
theorem event_of_unheard (unheard : Unheard id state event)
    : event = .cancel id ∨ event = .call ∧ state.count = id + 1 := by
  unfold Unheard at unheard
  split at unheard
  · exact unheard
  · exact .inl unheard
  · exact unheard.elim
  · exact unheard.elim

theorem not_unheard_of_other {other : Nat} (about : event.call? = some other) (differs : id ≠ other)
    : ¬Unheard id state event := by
  intro unheard
  rcases event_of_unheard unheard with rfl | ⟨rfl, -⟩
  · exact differs (Option.some.inj about)
  · contradiction

theorem JobMove.call? {other : Nat} {job' : Job ε β}
    (moves : JobMove delay state other event job job')
    : event.call? = some other := by
  cases moves <;> rfl

/-- What the events so far tell of the calls. -/
structure Traces (delay : Nat) (past : List (Event ε β)) (state : State ε β) : Prop where
  reached : Transition.run (step delay) .initial past = some state
  traced
    : ∀ id < state.count,
        Traced past state.count id (Transition.Took (step delay) (Unheard id) .initial past)
          (state.calls id).job (state.calls id).caller
  fresh
    : ∀ id,
        state.count ≤ id
        → ¬Transition.Took (step delay) (Unheard id) .initial past
          ∧ (state.calls id).caller = .awaiting false

/-- A call before the last one, past the next. -/
theorem Traced.call (traced : Traced past state.count id unheard (state.calls id).job caller)
    (made : id < state.count) (told : after ↔ unheard ∨ Unheard id state .call)
    : Traced (past ++ [Event.call]) (state.count + 1) id after (state.cancelLast.calls id).job
        caller := by
  have grows : ∀ earlier ∈ past, earlier ∈ past ++ [Event.call] :=
    fun earlier => List.mem_append_left [Event.call]
  have later
      : Traced (past ++ [Event.call]) (state.count + 1) id unheard (state.calls id).job caller :=
    traced.mono grows (Nat.le_succ state.count) Iff.rfl
  unfold State.cancelLast
  split
  · rename_i none
    omega
  · rename_i last same
    rw [job_setJob]
    split
    · rename_i isLast
      subst isLast
      have isNew : id + 1 < state.count + 1 := by omega
      by_cases undone : (state.calls id).job.done = false
      · refine later.cancel undone (.inr isNew) (told.trans (or_congr_right ?_))
        cases here : (state.calls id).job <;> simp_all [Unheard, Job.done]
      · cases here : (state.calls id).job with
        | ended result =>
            have quiet : ¬Unheard id state .call := by simp [Unheard, here]
            have kept : (state.calls id).job.cancel = (state.calls id).job := by rw [here]; rfl
            rw [← here, kept]
            exact traced.mono grows (Nat.le_succ _) (told.trans (or_iff_left quiet))
        | unstarted _ | sleeping _ _ _ | calling _ => simp [here, Job.done] at undone
    · rename_i other
      have quiet : ¬Unheard id state .call := by
        intro unheard
        rcases event_of_unheard unheard with same | ⟨-, isLast⟩
        · contradiction
        · omega
      exact traced.mono grows (Nat.le_succ _) (told.trans (or_iff_left quiet))

theorem caller_cancelLast (state : State ε β) (id : Nat)
    : (state.cancelLast.calls id).caller = (state.calls id).caller := by
  unfold State.cancelLast
  split
  · rfl
  · exact caller_setJob _ _ _ _

@[simp] theorem count_cancelLast (state : State ε β) : state.cancelLast.count = state.count := by
  unfold State.cancelLast
  split <;> rfl

/-- Only of a call that has been made does anything go unheard. -/
theorem made_of_unheard (stepped : step delay state event = some next)
    (unheard : Unheard id state event)
    : id < state.count := by
  simp only [step, Option.ite_none_right_eq_some] at stepped
  rcases event_of_unheard unheard with rfl | ⟨-, isLast⟩
  · exact stepped.1 id rfl
  · omega

theorem count_le_of_step (stepped : step delay state event = some next)
    : state.count ≤ next.count := by
  cases move_of_step stepped with
  | calls => simp [State.create]
  | ticks | works | enters | interrupts | leaves => exact Nat.le_refl _

/-- A call that has not been made has no caller that could go on. -/
theorem caller_of_unmade (unmade : next.count ≤ id) (stepped : step delay state event = some next)
    : (next.calls id).caller = (state.calls id).caller := by
  cases move_of_step stepped with
  | ticks => rfl
  | calls =>
      have other : id ≠ state.cancelLast.count := by
        simp only [State.create] at unmade
        omega
      simp only [State.create, Function.update_of_ne other, caller_cancelLast]
  | works => exact caller_setJob _ _ _ _
  | enters => exact caller_setJob _ _ _ _
  | interrupts made | leaves made =>
      rw [caller_setCaller, if_neg]
      rintro rfl
      exact absurd made (Nat.not_lt_of_le unmade)

/-- What a step tells of a call that has been made before. -/
theorem traced_step (made : id < state.count)
    (traced : Traced past state.count id unheard (state.calls id).job (state.calls id).caller)
    (told : after ↔ unheard ∨ Unheard id state event)
    (stepped : step delay state event = some next)
    : Traced (past ++ [event]) next.count id after (next.calls id).job (next.calls id).caller := by
  have grows : ∀ earlier ∈ past, earlier ∈ past ++ [event] :=
    fun earlier => List.mem_append_left [event]
  have stays (quiet : ¬Unheard id state event)
      : Traced (past ++ [event]) state.count id after (state.calls id).job
          (state.calls id).caller :=
    traced.mono grows (Nat.le_refl _) (told.trans (or_iff_left quiet))
  cases move_of_step stepped with
  | ticks =>
      refine stays fun unheard => ?_
      rcases event_of_unheard unheard with same | ⟨same, -⟩ <;> contradiction
  | calls =>
      have here : state.cancelLast.create.calls id = state.cancelLast.calls id :=
        calls_create_of_lt (by simpa using made)
      have count : state.cancelLast.create.count = state.count + 1 := by simp [State.create]
      rw [here, caller_cancelLast, count]
      exact traced.call made told
  | @works other _ job' _ moves =>
      rw [job_setJob, caller_setJob]
      split
      · rename_i same
        subst same
        exact traced.works rfl moves told
      · rename_i differs
        exact stays (not_unheard_of_other moves.call? differs)
  | @enters other wakeAt _ asleep =>
      have job := job_setJob state other id (.calling false)
      have caller := caller_setJob state other id (.calling false)
      simp only [job, caller]
      split
      · rename_i same
        subst same
        rw [asleep] at traced
        have quiet : ¬Unheard id state (.wake id) := by simp [Unheard, asleep]
        generalize (state.calls id).caller = caller at traced
        cases traced with
        | sleeping heard => exact .calling (told.not.mpr (by simp [heard, quiet]))
      · rename_i differs
        exact stays (not_unheard_of_other rfl differs)
  | @interrupts other interrupted result _ waits done =>
      rw [job_setCaller, caller_setCaller]
      by_cases same : id = other
      · subst same
        rw [waits, done] at traced
        rw [if_pos rfl, done]
        exact (traced.moves done told).1 rfl
      · rw [if_neg same]
        exact stays (not_unheard_of_other rfl same)
  | @leaves other interrupted result _ waits done =>
      rw [job_setCaller, caller_setCaller]
      by_cases same : id = other
      · subst same
        rw [waits, done] at traced
        rw [if_pos rfl, done]
        exact (traced.moves done told).2 (by simp)
      · rw [if_neg same]
        exact stays (not_unheard_of_other rfl same)

/-- Each step keeps what the events tell. -/
theorem Traces.step (traces : Traces delay past state)
    (stepped : Debounce.step delay state event = some next)
    : Traces delay (past ++ [event]) next := by
  have took (id : Nat) := @Transition.took_concat_iff _ _ _ (Unheard id) _ _ _ event traces.reached
  refine ⟨Transition.run_concat traces.reached stepped, fun id made => ?_, fun id unmade => ?_⟩
  · by_cases before : id < state.count
    · exact traced_step before (traces.traced id before) (took id) stepped
    · have heard
          : ¬Transition.Took (Debounce.step delay) (Unheard id) .initial (past ++ [event]) := by
        rw [took id]
        rintro (earlier | now)
        · exact (traces.fresh id (Nat.le_of_not_lt before)).1 earlier
        · exact before (made_of_unheard stepped now)
      cases move_of_step stepped with
      | calls =>
          have new : id = state.cancelLast.count := by
            simp only [State.create, count_cancelLast] at made ⊢
            omega
          subst new
          rw [calls_create_count]
          exact .unstarted (iff_of_false heard (by simp))
      | ticks | works | enters | interrupts | leaves => exact absurd made before
  · obtain ⟨heard, waits⟩ := traces.fresh id (Nat.le_trans (count_le_of_step stepped) unmade)
    refine ⟨?_, (caller_of_unmade unmade stepped).trans waits⟩
    rw [took id]
    rintro (earlier | now)
    · exact heard earlier
    · have made := made_of_unheard stepped now
      have grows := count_le_of_step stepped
      omega

theorem traces_of_run {events : List (Event ε β)}
    (reached : Transition.run (Debounce.step delay) .initial events = some final)
    : Traces delay events final := by
  refine Transition.run_preserves_history (P := fun past state => Traces delay past state)
    (fun _ _ _ _ traces stepped => traces.step stepped) ?_ reached
  exact ⟨rfl, by simp [State.initial], fun _ _ => ⟨Transition.not_took_nil, rfl⟩⟩

/-- However the calls, the timers, the cancellations and the ends of the function interleave: a
call of `debounced()` that has ended returned a value or raised an exception only if the
function ended so for it; it returned `None` only if the function was cancelled for it, its
caller was asked to cancel, or another call was made after it. It raised a `CancelledError`
exactly if its task was asked to cancel before its first step, by its caller or by the next
call, or its caller was past the end of the task.
-/
theorem debounce_answers {events : List (Event ε β)} {outcome : FutureState ε (Option β)}
    (reached : Transition.run (Debounce.step delay) .initial events = some final)
    (left : (final.calls id).caller = .left outcome)
    : (outcome = .cancelled ↔ Transition.Took (Debounce.step delay) (Unheard id) .initial events)
      ∧ Tells events final.count id outcome := by
  have traces := traces_of_run reached
  have made : id < final.count := by
    by_contra unmade
    have waits := (traces.fresh id (Nat.le_of_not_lt unmade)).2
    rw [left] at waits
    contradiction
  have traced := traces.traced id made
  rw [left] at traced
  generalize (final.calls id).job = job at traced
  cases traced with
  | left told tells => exact ⟨told.symm, tells⟩

/-- A second call that comes before the first step of the first one's task, and a third one
while the second one sleeps: they raise a `CancelledError`, return `None`, and return the value.
-/
theorem debounce_answers_threeCalls
    : ∃ final : State String Nat,
        Transition.run (step 1) .initial
            [.call, .call, .start 0, .start 1, .call, .wake 1, .resume 0, .resume 1, .start 2, .tick,
              .fire 2, .wake 2, .finish 2 (.success 5), .resume 2]
          = some final
        ∧ (final.calls 0).caller = .left .cancelled
        ∧ (final.calls 1).caller = .left (.success none)
        ∧ (final.calls 2).caller = .left (.success (some 5))
        ∧ Transition.Took (step 1) (Unheard 0) (.initial : State String Nat)
            [.call, .call, .start 0, .start 1, .call, .wake 1, .resume 0, .resume 1, .start 2, .tick,
              .fire 2, .wake 2, .finish 2 (.success 5), .resume 2] := by
  have reached : Transition.run (step 1) (.initial : State String Nat)
      [.call, .call, .start 0, .start 1, .call, .wake 1, .resume 0, .resume 1, .start 2, .tick,
        .fire 2, .wake 2, .finish 2 (.success 5), .resume 2] = some _ := rfl
  obtain ⟨cancelled, -⟩ := @debounce_answers String Nat 1 _ 0 _ _ reached rfl
  exact ⟨_, reached, rfl, rfl, rfl, cancelled.mp rfl⟩

end Aiodrive.Debounce
