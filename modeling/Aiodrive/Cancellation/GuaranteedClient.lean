import Aiodrive.Cancellation.GuaranteedLife

/-! What the clients of a `GuaranteedTask` can tell from what they would see of an `asyncio.Task`
whose first step starts its awaitable and leaves the requests made before for later.
-/

namespace Aiodrive.GuaranteedLife

open TaskLife (Delivery Ended Event Output Phase)

variable {ε α : Type*}

/-- A `GuaranteedTask` before its first step. -/
def unready (count : Nat) : State ε α :=
  { cancellationCount := count, ready := false, parent := .new }

/-- A plain task with as many requests before its first step. -/
def unstarted (count : Nat) : TaskLife.State ε α :=
  { numCancelsRequested := count
    mustCancel := decide (0 < count)
    cancelMessage := none
    phase := .unstarted }

/-- A `GuaranteedTask` whose base class is in the given state and has all of its requests. -/
def readied (life : TaskLife.State ε α) : State ε α :=
  { cancellationCount := life.numCancelsRequested, ready := true, parent := life }

/-- The tasks agree: before the first step, the plain task has a request on its way if the other
keeps one; after it, the plain task is the base class of the other.
-/
inductive Alike : State ε α → TaskLife.State ε α → Prop where
  | waits (count : Nat) : Alike (unready count) (unstarted count)
  | started (life : TaskLife.State ε α) (begun : life.phase ≠ .unstarted)
    : Alike (readied life) life

/-- The calls that a `GuaranteedTask` answers like a plain task. A request is without a message,
and is made before the end of the task or after it has been cancelled. Where taking a request
back does not withdraw it (`clears` is `false`), the last one is not taken back before the
first step.
-/
def Transparent (clears : Bool) (task : State ε α) : Event ε α → Prop
  | .cancel message =>
      task.parent.cancelled = true ∨ (task.parent.done = false ∧ message = none)
  | .uncancel => clears = true ∨ task.ready = true ∨ task.cancellationCount ≠ 1
  | .cancelling | .resume | .suspend _ | .finish _ | .waiterEnds _ => True

instance decidableTransparent (clears : Bool) (task : State ε α)
    : ∀ event, Decidable (Transparent clears task event)
  | .cancel message =>
      inferInstanceAs (Decidable (task.parent.cancelled = true
        ∨ (task.parent.done = false ∧ message = none)))
  | .uncancel =>
      inferInstanceAs (Decidable (clears = true ∨ task.ready = true
        ∨ task.cancellationCount ≠ 1))
  | .cancelling | .resume | .suspend _ | .finish _ | .waiterEnds _ => isTrue trivial

theorem cancelled_done {life : TaskLife.State ε α} (cancelled : life.cancelled = true)
    : life.done = true := by
  unfold TaskLife.State.cancelled at cancelled
  unfold TaskLife.State.done
  split at cancelled
  · simp [*]
  · cases cancelled

theorem waits_matches {clears : Bool} {count : Nat} {event : Event ε α}
    (transparent : Transparent clears (unready count) event)
    : Transition.Matches Alike (step clears (unready count) event)
        (TaskLife.step clears true (unstarted count) event) := by
  cases event with
  | cancel message =>
      obtain rfl : message = none := by
        simpa [Transparent, unready, TaskLife.State.cancelled, TaskLife.State.done,
          TaskLife.State.new] using transparent
      have plain : TaskLife.step clears true (unstarted count : TaskLife.State ε α) (.cancel none)
          = some (unstarted (count + 1), [.cancelReturned true]) := by
        simp [TaskLife.step, TaskLife.State.cancel, unstarted, TaskLife.State.remember]
      rw [plain]
      exact ⟨.waits (count + 1), rfl⟩
  | uncancel =>
      cases count with
      | zero => exact ⟨.waits 0, rfl⟩
      | succ count =>
          have plain : TaskLife.step clears true (unstarted (count + 1) : TaskLife.State ε α)
              .uncancel = some (unstarted count, [.uncancelReturned count]) := by
            have withdrawn : clears = true ∨ count ≠ 0 := by
              simpa [Transparent, unready] using transparent
            simp [TaskLife.step, TaskLife.State.uncancel, unstarted]
            grind
          rw [plain]
          exact ⟨.waits count, rfl⟩
  | cancelling => exact ⟨.waits count, rfl⟩
  | resume =>
      have waits : Waits (unready count : State ε α) := ⟨rfl, rfl⟩
      have first : step clears (unready count : State ε α) .resume
          = some (readied (begun count).parent, [.resumed .started]) := by
        simp only [step, waits.resume, Option.map_some]
        rfl
      have plain : TaskLife.step clears true (unstarted count : TaskLife.State ε α) .resume
          = some ((begun count : State ε α).parent, [.resumed .started]) := by
        simp [TaskLife.step, TaskLife.State.resume, unstarted, begun, TaskLife.State.ended?]
      rw [first, plain]
      exact ⟨.started _ (by simp [begun]), rfl⟩
  | suspend target => trivial
  | finish ended => trivial
  | waiterEnds exception => trivial

theorem readied_cancel {life : TaskLife.State ε α} (pending : life.done = false)
    (message : Option String)
    : (readied life).cancel message
      = (readied (life.cancel none).1, (life.cancel none).2.1, true) := by
  have notCancelled : life.cancelled ≠ true := by
    intro cancelled
    simp [cancelled_done cancelled] at pending
  simp [State.cancel, readied, notCancelled, TaskLife.cancel_numCancelsRequested pending]

theorem readied_uncancel (clears : Bool) (life : TaskLife.State ε α)
    : (readied life).uncancel clears = readied (life.uncancel clears) := by
  unfold State.uncancel readied
  split
  · simp
  · simp_all [TaskLife.State.uncancel]

theorem started_matches {clears : Bool} {life : TaskLife.State ε α}
    (begun : life.phase ≠ .unstarted) {event : Event ε α}
    (transparent : Transparent clears (readied life) event)
    : Transition.Matches Alike (step clears (readied life) event)
        (TaskLife.step clears true life event) := by
  have started : Started (readied life) := ⟨rfl, begun, fun _ => rfl⟩
  cases call : event.isCall with
  | false =>
      -- The first step alone can tell whether it is to defer a request
      have same : TaskLife.step clears true life event = TaskLife.step clears false life event :=
        TaskLife.step_defers begun event
      rw [started.step_own call, same]
      cases stepped : TaskLife.step clears false life event with
      | none => simp [readied, stepped, Transition.Matches]
      | some pair =>
          obtain ⟨next, outputs⟩ := pair
          have advances := TaskLife.step_advances call stepped
          simp only [readied, stepped, Option.map_some]
          refine ⟨?_, rfl⟩
          have alike := Alike.started next (advances.started begun).1
          simpa only [readied, advances.count] using alike
  | true =>
      cases event with
      | cancel message =>
          rcases transparent with cancelled | ⟨pending, rfl⟩
          · have done : life.done = true := cancelled_done cancelled
            have refused : (readied life).cancel message = (readied life, [], false) := by
              simp [State.cancel, readied, show life.cancelled = true from cancelled]
            simp only [step, refused, TaskLife.step, TaskLife.cancel_of_done done]
            exact ⟨.started life begun, rfl⟩
          · have pending : life.done = false := pending
            simp only [step, readied_cancel pending, TaskLife.step,
              TaskLife.cancel_answer pending]
            refine ⟨.started _ fun unstarted => ?_, rfl⟩
            exact begun (TaskLife.cancel_unstarted unstarted)
      | uncancel =>
          simp only [step, readied_uncancel, TaskLife.step]
          exact ⟨.started _ (by simpa using begun), rfl⟩
      | cancelling => exact ⟨.started life begun, rfl⟩
      | resume => cases call
      | suspend target => cases call
      | finish ended => cases call
      | waiterEnds exception => cases call

/-- In every run whose calls are all transparent, a `GuaranteedTask` answers its clients, resumes
its awaitable and passes requests on exactly as a plain task does that starts its coroutine
before it cancels it.
-/
theorem guaranteed_refines (clears : Bool) {events : List (Event ε α)}
    (met : Transition.Meets (Transition.silent (step clears)) (Transparent clears) .new events)
    : Transition.outputs (step clears) .new events
      = Transition.outputs (TaskLife.step clears true) .new events := by
  refine Transition.outputs_eq_of_matches Alike ?_ (.waits 0) met
  intro task life event alike transparent
  cases alike with
  | waits count => exact waits_matches transparent
  | started life begun => exact started_matches begun transparent

/-- The plain task has no exception to make where the requests made before its first step have
been taken back by then.
-/
theorem guaranteed_refines_plain (clears : Bool) {events : List (Event ε α)}
    (met
      : Transition.Meets (Transition.silent (step clears))
          (fun task event =>
            Transparent clears task event
            ∧ (event = .resume → task.ready = false → task.cancellationCount = 0))
          .new events)
    : Transition.outputs (step clears) .new events
      = Transition.outputs (TaskLife.step clears false) .new events := by
  refine Transition.outputs_eq_of_matches Alike ?_ (.waits 0) met
  intro task life event alike condition
  obtain ⟨transparent, none⟩ := condition
  cases alike with
  | waits count =>
      have same : TaskLife.step clears false (unstarted count : TaskLife.State ε α) event
          = TaskLife.step clears true (unstarted count) event := by
        cases event with
        | resume =>
            obtain rfl : count = 0 := none rfl rfl
            rfl
        | cancel message => rfl
        | uncancel => rfl
        | cancelling => rfl
        | suspend target => rfl
        | finish ended => rfl
        | waiterEnds exception => rfl
      rw [same]
      exact waits_matches transparent
  | started life begun =>
      rw [← TaskLife.step_defers begun]
      exact started_matches begun transparent

/-- A cancelled task that is cancelled again while its coroutine waits, without messages. -/
theorem guaranteed_refines_cancelled
    : let events : List (Event String Nat) :=
        [.cancel none, .resume, .suspend (.future true), .cancel none, .uncancel,
          .waiterEnds (some (.cancelledError none)), .resume,
          .finish (.raised (.cancelledError none)), .cancel (some "late")]
      Transition.outputs (step true) .new events
        = Transition.outputs (TaskLife.step true true) .new events :=
  guaranteed_refines true (by decide)

/-- A message that is lost, and a request that is accepted and counted after the end. -/
theorem guaranteed_loses_message
    : Transition.outputs (step true)
          (.new : State String Nat)
          [.resume, .cancel (some "stop"), .suspend .bareYield, .resume]
        ≠ Transition.outputs (TaskLife.step true true) .new
            [.resume, .cancel (some "stop"), .suspend .bareYield, .resume]
      ∧ Transition.outputs (step true)
            (.new : State String Nat)
            [.resume, .finish (.returned 1), .cancel none, .cancelling]
          ≠ Transition.outputs (TaskLife.step true true) .new
              [.resume, .finish (.returned 1), .cancel none, .cancelling] := by
  decide

end Aiodrive.GuaranteedLife
