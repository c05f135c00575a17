import Aiodrive.Asyncio.Future
import Aiodrive.Asyncio.Task
import Aiodrive.Transition.Runs
import Mathlib.Data.List.Induction

/-! `cancel_task()` of `modules/cancel.py`, and the cancellations of its caller that it keeps.
The caller's cancellations reach the awaited target while that is pending, and are told from
the request of `cancel_task()` itself by the count on the target.
-/

namespace Aiodrive.CancelTask

variable {ε α : Type*}

/-- Where `cancel_task()` is: at its `await task`, where `thrown` tells that a `CancelledError`
is to be thrown, or at its end.
-/
inductive Place (ε : Type*) where
  | awaiting (thrown : Bool)
  | exited (outcome : Outcome ε Unit)
deriving DecidableEq, Repr

/-- `await task` as a statement: the result of the task is dropped. -/
def awaitTask (target : FutureState ε α) : Outcome ε Unit :=
  match target.result with
  | .returned _ => .returned ()
  | .raised error => .raised error

/-- `cancel_task()` from where its `await task` resumes, with the target after it. -/
def resume {τ : Type} [TaskLike τ] (target : FutureState ε α) (task : τ) (thrown : Bool)
    : τ × Outcome ε Unit :=
  match if thrown then .raised .cancelledError else awaitTask target with
  | .raised .cancelledError =>
      let task := TaskLike.uncancel task
      (task, if TaskLike.cancelling task > 0 then .raised .cancelledError else .returned ())
  | outcome => (task, outcome)

-----------------------------------------------------------------------------------------
-- Runs of one call
-----------------------------------------------------------------------------------------

structure State (ε α : Type*) where
  target : FutureState ε α
  task : Task
  place : Place ε
deriving DecidableEq, Repr

/-- `cancel_task(task, message)` up to its suspension, or to its end on a done task. -/
def start (target : FutureState ε α) (task : Task) (message : Option String) : State ε α :=
  if target.done then { target, task, place := .exited (awaitTask target) }
  else { target, task := task.cancel message, place := .awaiting false }

/-- What can happen during the call. The target suspends again after a request, takes one back
with `uncancel()`, or ends; the current task is cancelled, or resumes at its `await`.
-/
inductive Event (ε α : Type*) where
  | targetSuspends
  | targetUncancels
  | targetEnds (state : FutureState ε α)
  | cancelCurrent (message : Option String)
  | resumes
deriving DecidableEq, Repr

def step (state : State ε α) : Event ε α → Option (State ε α)
  | .targetSuspends => if state.target.done then none else some state
  | .targetUncancels =>
      if state.target.done then none else some { state with task := state.task.uncancel }
  | .targetEnds ended =>
      if state.target.done || !ended.done then none else some { state with target := ended }
  | .cancelCurrent message =>
      match state.place with
      | .awaiting _ =>
          -- A pending target takes the request over; a done one cannot
          if state.target.done then some { state with place := .awaiting true }
          else some { state with task := state.task.cancel message }
      | .exited _ => none
  | .resumes =>
      match state.place with
      | .awaiting thrown =>
          if state.target.done then
            let (task, outcome) := resume state.target state.task thrown
            some { state with task, place := .exited outcome }
          else
            none
      | .exited _ => none

/-- A call on a target that is pending and that nobody has asked to cancel. -/
def State.initial (message : Option String) : State ε α :=
  start .pending { cancelling := 0, message := none } message

-----------------------------------------------------------------------------------------
-- The cancellations of a call
-----------------------------------------------------------------------------------------

/-- What the events so far amount to: whether the target has ended, the cancellations of the
current task before and after that, and the requests outstanding on the target at its end.
-/
structure Arrivals where
  ended : Bool
  early : Nat
  late : Nat
  outstanding : Nat
deriving DecidableEq, Repr

def Arrivals.record (arrivals : Arrivals) : Event ε α → Arrivals
  | .targetSuspends | .resumes => arrivals
  | .targetUncancels => { arrivals with outstanding := arrivals.outstanding - 1 }
  | .targetEnds _ => { arrivals with ended := true }
  | .cancelCurrent _ =>
      if arrivals.ended then { arrivals with late := arrivals.late + 1 }
      else
        { arrivals with early := arrivals.early + 1, outstanding := arrivals.outstanding + 1 }

/-- The arrivals of a call, from its own request on. -/
def arrivals (events : List (Event ε α)) : Arrivals :=
  events.foldl Arrivals.record { ended := false, early := 0, late := 0, outstanding := 1 }

theorem arrivals_concat (events : List (Event ε α)) (event : Event ε α)
    : arrivals (events ++ [event]) = (arrivals events).record event := by
  simp [arrivals]

/-- The state of a call agrees with the arrivals so far. -/
structure Agrees (arrivals : Arrivals) (state : State ε α) : Prop where
  ended : arrivals.ended = state.target.done
  pending : state.target = .pending → arrivals.late = 0
  awaiting
    : ∀ thrown,
        state.place = .awaiting thrown
        → (thrown = true ↔ 0 < arrivals.late)
          ∧ state.task.cancelling = arrivals.outstanding
  exited
    : ∀ outcome,
        state.place = .exited outcome
        → ∃ (task : Task) (thrown : Bool),
            state.target.done = true
            ∧ (thrown = true ↔ 0 < arrivals.late)
            ∧ TaskLike.cancelling task = arrivals.outstanding
            ∧ outcome = (resume state.target task thrown).2

/-- One step of a call, by cases on the event. -/
theorem step_agrees {arrivals : Arrivals} {state next : State ε α} {event : Event ε α}
    (agrees : Agrees arrivals state) (stepped : step state event = some next)
    : Agrees (arrivals.record event) next := by
  obtain ⟨ended, pending, awaiting, exited⟩ := agrees
  -- Where the target is pending, the call still waits and nothing has been thrown
  have waits (notDone : state.target.done = false) : ∃ thrown, state.place = .awaiting thrown := by
    cases here : state.place with
    | awaiting thrown => exact ⟨thrown, rfl⟩
    | exited outcome =>
        obtain ⟨task, thrown, done, _⟩ := exited outcome here
        simp [notDone] at done
  cases event with
  | targetSuspends =>
      simp only [step, Option.ite_none_left_eq_some] at stepped
      obtain ⟨notDone, same⟩ := stepped
      obtain rfl := Option.some.inj same
      exact ⟨ended, pending, awaiting, exited⟩
  | targetUncancels =>
      simp only [step, Option.ite_none_left_eq_some] at stepped
      obtain ⟨notDone, same⟩ := stepped
      obtain rfl := Option.some.inj same
      obtain ⟨thrown, here⟩ := waits (by simpa using notDone)
      refine ⟨ended, pending, ?_, ?_⟩
      · intro thrown here
        obtain ⟨late, count⟩ := awaiting thrown here
        exact ⟨late, by simp only [Task.uncancel_cancelling, count, Arrivals.record]⟩
      · intro outcome other
        cases here.symm.trans other
  | targetEnds final =>
      simp only [step, Option.ite_none_left_eq_some, Bool.or_eq_true, not_or] at stepped
      obtain ⟨⟨notDone, done⟩, same⟩ := stepped
      obtain rfl := Option.some.inj same
      obtain ⟨thrown, here⟩ := waits (by simpa using notDone)
      refine ⟨by simpa [Arrivals.record] using done, ?_, awaiting, ?_⟩
      · rintro rfl
        simp at done
      · intro outcome other
        cases here.symm.trans other
  | cancelCurrent message =>
      cases here : state.place with
      | exited outcome => simp [step, here] at stepped
      | awaiting thrown =>
          obtain ⟨late, count⟩ := awaiting thrown here
          simp only [step, here] at stepped
          cases done : state.target.done with
          | true =>
              simp only [done, if_true, Option.some.injEq] at stepped
              obtain rfl := stepped
              simp only [Arrivals.record, ended, done, if_true]
              refine ⟨done.symm, ?_, ?_, by simp⟩
              · intro same
                rw [show state.target = .pending from same] at done
                contradiction
              · rintro _ ⟨⟩
                exact ⟨by simp, count⟩
          | false =>
              simp only [done, Bool.false_eq_true, if_false, Option.some.injEq] at stepped
              obtain rfl := stepped
              simp only [Arrivals.record, ended, done, Bool.false_eq_true, if_false]
              refine ⟨done.symm, pending, ?_, by simp⟩
              rintro _ ⟨⟩
              exact ⟨late, by simp only [Task.cancel_cancelling, count]⟩
  | resumes =>
      cases here : state.place with
      | exited outcome => simp [step, here] at stepped
      | awaiting thrown =>
          obtain ⟨late, count⟩ := awaiting thrown here
          simp only [step, here, Option.ite_none_right_eq_some] at stepped
          obtain ⟨done, same⟩ := stepped
          obtain rfl := Option.some.inj same
          refine ⟨ended, pending, by simp, ?_⟩
          rintro _ ⟨⟩
          exact ⟨state.task, thrown, done, late, count, rfl⟩

/-- Every run of a call agrees with the arrivals of its events, by induction on the events. -/
theorem run_agrees {message : Option String} {events : List (Event ε α)} {final : State ε α}
    (reached : Transition.run step (State.initial message) events = some final)
    : Agrees (arrivals events) final := by
  apply Transition.run_preserves_history (P := fun past state => Agrees (arrivals past) state)
    _ _ reached
  · intro past state event next agrees stepped
    rw [arrivals_concat]
    exact step_agrees agrees stepped
  · exact {
      ended := rfl
      pending := fun _ => rfl
      awaiting := by
        rintro _ ⟨⟩
        exact ⟨by simp [arrivals], rfl⟩
      exited := by simp [State.initial, start]
    }

-----------------------------------------------------------------------------------------
-- The cancellations that a call keeps
-----------------------------------------------------------------------------------------

/-- `cancel_task()` ends as its caller relies on: with the target done, with the target's own
exception if there is one, and otherwise with a `CancelledError` exactly when the current task
was cancelled during the call.
-/
def KeepsCancellation (arrivals : Arrivals) (target : FutureState ε α)
    (outcome : Outcome ε Unit)
    : Prop :=
  target.done = true
  ∧ (∀ error, target = .exception error → outcome = .raised (.exception error))
  ∧ (target.exception? = none
      → (outcome = .raised .cancelledError ↔ 0 < arrivals.early + arrivals.late))

/-- The arrivals that the count on the target tells apart. A cancellation after the end of the
target needs a target that did not fail and another request outstanding on it. Without one, a
target that returns a value must not have been sent any, and one that ends cancelled must have
another request outstanding exactly when it was sent one.
-/
def Distinguished (arrivals : Arrivals) (target : FutureState ε α) : Prop :=
  (0 < arrivals.late → target.exception? = none ∧ 1 < arrivals.outstanding)
  ∧ (arrivals.late = 0
      → (target.result?.isSome → arrivals.early = 0)
        ∧ (target = .cancelled → (1 < arrivals.outstanding ↔ 0 < arrivals.early)))

/-- A `CancelledError` that `cancel_task()` catches is raised again when another request than
its own is outstanding.
-/
theorem resume_cancelled {τ : Type} [TaskLike τ] {target : FutureState ε α} {task : τ}
    {thrown : Bool} (caught : thrown = true ∨ target = .cancelled)
    : (resume target task thrown).2
      = if 1 < TaskLike.cancelling task then .raised .cancelledError else .returned () := by
  have raises : (if thrown then .raised .cancelledError else awaitTask target)
      = (.raised .cancelledError : Outcome ε Unit) := by
    rcases caught with rfl | rfl
    · rfl
    · cases thrown <;> rfl
  simp only [resume, raises, TaskLike.cancelling_uncancel, gt_iff_lt, Nat.sub_pos_iff_lt]

/-- `cancel_task()` keeps the cancellations of its caller exactly when the count on the target
distinguishes them from its own request, by cases on how the target ended.
-/
theorem cancelTask_keepsCancellation_iff {message : Option String}
    {events : List (Event ε α)} {final : State ε α} {outcome : Outcome ε Unit}
    (reached : Transition.run step (State.initial message) events = some final)
    (exited : final.place = .exited outcome)
    : KeepsCancellation (arrivals events) final.target outcome
      ↔ Distinguished (arrivals events) final.target := by
  obtain ⟨task, thrown, done, late, count, rfl⟩ := (run_agrees reached).exited outcome exited
  cases thrown with
  | true =>
      have late : 0 < (arrivals events).late := late.mp rfl
      have received : 0 < (arrivals events).early + (arrivals events).late := by omega
      simp only [KeepsCancellation, Distinguished, done, resume_cancelled (.inl rfl), count,
        late, Nat.ne_of_gt late, received, true_and, true_implies, iff_true, false_implies,
        and_true]
      cases ended : final.target with
      | pending => simp [ended] at done
      | exception error =>
          simp only [FutureState.exception?, reduceCtorEq, false_implies, and_true, false_and,
            iff_false]
          intro raises
          have raised := raises error rfl
          split at raised <;> cases raised
      | cancelled => simp [FutureState.exception?]
      | success value => simp [FutureState.exception?]
  | false =>
      have none : (arrivals events).late = 0 := by simpa using late
      simp only [KeepsCancellation, Distinguished, done, none, Nat.lt_irrefl, false_implies,
        true_and, true_implies, Nat.add_zero]
      cases ended : final.target with
      | pending => simp [ended] at done
      | exception error =>
          simp [FutureState.exception?, FutureState.result?, resume, awaitTask,
            FutureState.result]
      | cancelled =>
          simp [resume_cancelled (.inr rfl), count, FutureState.exception?, FutureState.result?]
      | success value =>
          simp [FutureState.exception?, FutureState.result?, resume, awaitTask,
            FutureState.result, Nat.pos_iff_ne_zero]

/-- A call whose caller is cancelled while the target, which ends cancelled, is pending. -/
theorem cancelTask_keepsCancellation_forwarded
    : ∃ (events : List (Event String Nat)) (final : State String Nat)
        (outcome : Outcome String Unit),
        Transition.run step (State.initial none) events = some final
        ∧ final.place = .exited outcome
        ∧ KeepsCancellation (arrivals events) final.target outcome := by
  have reached : Transition.run step (State.initial none : State String Nat)
      [.targetSuspends, .cancelCurrent none, .targetEnds .cancelled, .resumes] = some _ := rfl
  refine ⟨_, _, _, reached, rfl, (cancelTask_keepsCancellation_iff reached rfl).mpr ?_⟩
  simp [Distinguished, arrivals, Arrivals.record, FutureState.exception?, FutureState.result?]

/-- The caller is cancelled while the target is pending, and the target returns a value. -/
theorem cancelTask_loses_cancellation
    : ∃ (events : List (Event String Nat)) (final : State String Nat)
        (outcome : Outcome String Unit),
        Transition.run step (State.initial none) events = some final
        ∧ final.place = .exited outcome
        ∧ ¬KeepsCancellation (arrivals events) final.target outcome := by
  refine ⟨[.cancelCurrent none, .targetEnds (.success 7), .resumes], _, _, rfl, rfl, ?_⟩
  simp [KeepsCancellation, arrivals, Arrivals.record, FutureState.exception?, awaitTask,
    FutureState.result]

/-- Where the target takes no request back, the requests outstanding on it are that of
`cancel_task()` and the cancellations that came in time.
-/
theorem outstanding_of_no_uncancel {events : List (Event ε α)}
    (kept : .targetUncancels ∉ events)
    : (arrivals events).outstanding = (arrivals events).early + 1 := by
  induction events using List.reverseRecOn with
  | nil => rfl
  | append_singleton past event ih =>
      have earlier := ih (fun member => kept (List.mem_append_left _ member))
      rw [arrivals_concat]
      cases event with
      | targetSuspends => exact earlier
      | resumes => exact earlier
      | targetEnds ended => exact earlier
      | targetUncancels => simp at kept
      | cancelCurrent message =>
          simp only [Arrivals.record]
          split
          · exact earlier
          · simp only [earlier]

/-- For a target that takes no request back: a cancellation after its end needs one before it
and a target that did not fail; otherwise a target that returns a value needs none at all.
-/
theorem distinguished_iff_of_no_uncancel {events : List (Event ε α)}
    (kept : .targetUncancels ∉ events) (target : FutureState ε α)
    : Distinguished (arrivals events) target
      ↔ (0 < (arrivals events).late
            → target.exception? = none ∧ 0 < (arrivals events).early)
        ∧ ((arrivals events).late = 0
            → target.result?.isSome
            → (arrivals events).early = 0) := by
  simp only [Distinguished, outstanding_of_no_uncancel kept, Nat.lt_add_left_iff_pos,
    implies_true, and_true]

end Aiodrive.CancelTask
