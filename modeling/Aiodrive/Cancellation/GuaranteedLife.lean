import Aiodrive.Asyncio.TaskLife
import Aiodrive.Cancellation.GuaranteedTask
import Mathlib.Logic.Function.Iterate

/-! A `GuaranteedTask` over its whole life: the requests before its first step, the start of its
awaitable, and the count that it keeps beside that of its base class.
-/

namespace Aiodrive.GuaranteedLife

open TaskLife (Delivery Ended Event Output Phase Thrown Waiter)

variable {ε α : Type*}

/-- A `GuaranteedTask`; `parent` is what the methods of its base class read and write. -/
structure State (ε α : Type*) where
  cancellationCount : Nat
  ready : Bool
  parent : TaskLife.State ε α
deriving DecidableEq, Repr

/-- `GuaranteedTask(awaitable)` -/
def State.new : State ε α := { cancellationCount := 0, ready := false, parent := .new }

/-- `GuaranteedTask.cancel(message)`, with the requests that the base class passes on and the
returned flag. The message is not passed to the base class.
-/
def State.cancel (task : State ε α) (_message : Option String)
    : State ε α × List (Option String) × Bool :=
  if task.parent.cancelled then (task, [], false)
  else
    let cancellationCount := task.cancellationCount + 1
    if task.ready then
      let (parent, asked, _) := task.parent.cancel none
      ({ task with cancellationCount, parent }, asked, true)
    else
      ({ task with cancellationCount }, [], true)

/-- `GuaranteedTask.uncancel()` -/
def State.uncancel (clears : Bool) (task : State ε α) : State ε α :=
  if task.cancellationCount > 0 then
    let cancellationCount := task.cancellationCount - 1
    if task.ready then { task with cancellationCount, parent := task.parent.uncancel clears }
    else { task with cancellationCount }
  else
    task

/-- `GuaranteedTask.cancelling()` -/
def State.cancelling (task : State ε α) : Nat := task.cancellationCount

/-- `task_main()` up to its `await`, in the first step of the base class. -/
def State.taskMain (task : State ε α) : State ε α :=
  { task with
    ready := true
    parent := (fun parent => (parent.cancel none).1)^[task.cancellationCount] task.parent }

/-- A step of the base class, the first of which enters `task_main()`. -/
def State.resume (task : State ε α) : Option (State ε α × Delivery ε) :=
  (task.parent.resume false).map (fun (parent, delivery) =>
    let next := { task with parent }
    match delivery with
    | .started => (next.taskMain, delivery)
    | .sent | .cancelled _ | .threw _ => (next, delivery))

def step (clears : Bool) (task : State ε α)
    : Event ε α → Option (State ε α × List (Output ε α))
  | .cancel message =>
      let (task, asked, answer) := task.cancel message
      some (task, asked.map .asked ++ [.cancelReturned answer])
  | .uncancel =>
      let task := task.uncancel clears
      some (task, [.uncancelReturned task.cancellationCount])
  | .cancelling => some (task, [.cancellingReturned task.cancelling])
  | .resume =>
      task.resume.map (fun (task, delivery) =>
        (task, .resumed delivery :: task.parent.ended?.toList.map .ended))
  | event =>
      (TaskLife.step clears false task.parent event).map (fun (parent, outputs) =>
        ({ task with parent }, outputs))

-----------------------------------------------------------------------------------------
-- The first step
-----------------------------------------------------------------------------------------

/-- A task that has not been started: its base class has seen no request. -/
def Waits (task : State ε α) : Prop := task.ready = false ∧ task.parent = .new

/-- `count` requests that a running task makes of itself, by induction on their number. -/
theorem iterate_cancel (count : Nat) {parent : TaskLife.State ε α}
    (running : parent.phase = .running)
    : (fun parent => (parent.cancel none).1)^[count] parent
      = { parent with
          numCancelsRequested := parent.numCancelsRequested + count
          mustCancel := parent.mustCancel || decide (0 < count)
          cancelMessage := if 0 < count then none else parent.cancelMessage } := by
  induction count with
  | zero => simp
  | succ count ih =>
      rw [Function.iterate_succ_apply', ih]
      simp [TaskLife.State.cancel, running, TaskLife.State.remember]
      omega

/-- The task after its first step. -/
def begun (count : Nat) : State ε α :=
  { cancellationCount := count
    ready := true
    parent :=
      { numCancelsRequested := count
        mustCancel := decide (0 < count)
        cancelMessage := none
        phase := .running } }

theorem Waits.resume {task : State ε α} (waits : Waits task)
    : task.resume = some (begun task.cancellationCount, .started) := by
  obtain ⟨-, parent⟩ := waits
  simp [State.resume, State.taskMain, parent, TaskLife.State.resume, TaskLife.State.new,
    iterate_cancel, begun]

theorem new_waits : Waits (State.new : State ε α) := ⟨rfl, rfl⟩

theorem Waits.cancel {task : State ε α} (waits : Waits task) (message : Option String)
    : task.cancel message
      = ({ task with cancellationCount := task.cancellationCount + 1 }, [], true) := by
  obtain ⟨unready, untouched⟩ := waits
  simp [State.cancel, untouched, unready, TaskLife.State.cancelled, TaskLife.State.new]

/-- A call before the first step changes the kept count only. -/
theorem Waits.call {clears : Bool} {task : State ε α} (waits : Waits task) {event : Event ε α}
    (call : event.isCall = true)
    : ∃ next outputs,
        step clears task event = some (next, outputs)
        ∧ Waits next
        ∧ .resumed .started ∉ outputs := by
  obtain ⟨unready, untouched⟩ := waits
  cases event with
  | cancel message =>
      refine ⟨{ task with cancellationCount := task.cancellationCount + 1 },
        [.cancelReturned true], ?_, ⟨unready, untouched⟩, by simp⟩
      simp [step, Waits.cancel ⟨unready, untouched⟩]
  | uncancel =>
      refine ⟨_, _, rfl, ?_, by simp⟩
      unfold State.uncancel
      split <;> simp [untouched, unready, Waits]
  | cancelling => exact ⟨_, _, rfl, ⟨unready, untouched⟩, by simp⟩
  | resume => cases call
  | suspend target => cases call
  | finish ended => cases call
  | waiterEnds exception => cases call

-----------------------------------------------------------------------------------------
-- After the first step
-----------------------------------------------------------------------------------------

/-- A task whose awaitable has been started: it keeps the count of its base class until it is done.
-/
structure Started (task : State ε α) : Prop where
  ready : task.ready = true
  begun : task.parent.phase ≠ .unstarted
  agrees : task.parent.done = false → task.cancellationCount = task.parent.numCancelsRequested

theorem begun_started (count : Nat) : Started (begun count : State ε α) :=
  ⟨rfl, by simp [begun], fun _ => rfl⟩

/-- What a started task does by itself is what its base class does. -/
theorem Started.step_own {task : State ε α} (started : Started task) {clears : Bool}
    {event : Event ε α} (own : event.isCall = false)
    : step clears task event
      = (TaskLife.step clears false task.parent event).map (fun (parent, outputs) =>
          ({ task with parent }, outputs)) := by
  cases event with
  | resume =>
      simp only [step, TaskLife.step, State.resume]
      cases resumed : task.parent.resume false with
      | none => rfl
      | some pair =>
          obtain ⟨parent, delivery⟩ := pair
          obtain ⟨⟨exception, same⟩, -⟩ := TaskLife.resume_started resumed started.begun
          have other := TaskLife.wakeup_delivery task.parent exception
          rw [← same] at other
          cases delivery with
          | started => exact absurd rfl other
          | sent => rfl
          | cancelled message => rfl
          | threw thrown => rfl
  | cancel message => cases own
  | uncancel => cases own
  | cancelling => cases own
  | suspend target => rfl
  | finish ended => rfl
  | waiterEnds exception => rfl

/-- A step that a started task takes by itself is one of its base class. -/
theorem Started.parent_step {clears : Bool} {task next : State ε α} (started : Started task)
    {event : Event ε α} {outputs : List (Output ε α)} (own : event.isCall = false)
    (stepped : step clears task event = some (next, outputs))
    : TaskLife.step clears false task.parent event = some (next.parent, outputs)
      ∧ next = { task with parent := next.parent } := by
  rw [started.step_own own] at stepped
  obtain ⟨⟨parent, answered⟩, parentStepped, same⟩ := Option.map_eq_some_iff.mp stepped
  obtain ⟨rfl, rfl⟩ := Prod.mk.inj same
  exact ⟨parentStepped, rfl⟩

/-- A started task stays so, and does not start its awaitable again. -/
theorem started_step {clears : Bool} {task next : State ε α} (started : Started task)
    {event : Event ε α} {outputs : List (Output ε α)}
    (stepped : step clears task event = some (next, outputs))
    : Started next ∧ .resumed .started ∉ outputs := by
  cases call : event.isCall with
  | false =>
      obtain ⟨parentStepped, same⟩ := started.parent_step call stepped
      have advances := TaskLife.step_advances call parentStepped
      obtain ⟨begun, once⟩ := advances.started started.begun
      refine ⟨⟨?_, begun, fun _ => ?_⟩, once⟩
      · rw [same]
        exact started.ready
      · rw [advances.count, same]
        exact started.agrees advances.pending
  | true =>
      obtain ⟨ready, begun, agrees⟩ := started
      cases event with
      | cancel message =>
          simp only [step, State.cancel, ready, if_true, Option.some.injEq, Prod.mk.injEq]
            at stepped
          obtain ⟨rfl, rfl⟩ := stepped
          refine ⟨?_, by simp⟩
          split
          · exact ⟨ready, begun, agrees⟩
          · refine ⟨rfl, fun unstarted => begun (TaskLife.cancel_unstarted unstarted), ?_⟩
            intro pending
            simp only [TaskLife.cancel_done] at pending
            simp only [TaskLife.cancel_numCancelsRequested pending, agrees pending]
      | uncancel =>
          obtain ⟨rfl, rfl⟩ := Prod.mk.inj (Option.some.inj stepped)
          refine ⟨?_, by simp⟩
          unfold State.uncancel
          split
          · simp only [ready]
            refine ⟨rfl, by simpa using begun, fun pending => ?_⟩
            simp only [TaskLife.uncancel_numCancelsRequested]
            rw [agrees (by simpa [TaskLife.State.done] using pending)]
          · exact ⟨ready, begun, agrees⟩
      | cancelling =>
          obtain ⟨rfl, rfl⟩ := Prod.mk.inj (Option.some.inj stepped)
          exact ⟨⟨ready, begun, agrees⟩, by simp⟩
      | resume => cases call
      | suspend target => cases call
      | finish ended => cases call
      | waiterEnds exception => cases call

-----------------------------------------------------------------------------------------
-- What becomes of the requests made before the first step
-----------------------------------------------------------------------------------------

/-- The awaitable is not started again. -/
def StartedOnce (clears : Bool) (task : State ε α) : Prop :=
  ∀ after final answers,
    Transition.respond (step clears) task after = some (final, answers)
    → ∀ outputs ∈ answers, .resumed .started ∉ outputs

/-- The count is that of the base class until the task is done. -/
def KeepsCount (clears : Bool) (task : State ε α) : Prop :=
  ∀ after final answers,
    Transition.respond (step clears) task after = some (final, answers)
    → final.parent.done = false
    → final.cancelling = final.parent.numCancelsRequested

/-- Where the awaitable, running for the first time, does not take a request back, the future that
it waits for first is cancelled, or a `CancelledError` is thrown into it after a bare `yield`,
or the task ends cancelled if it returns.
-/
def Delivers (clears : Bool) (task : State ε α) : Prop :=
  ∀ body middle answers,
    (∀ event ∈ body, event.isCall = true ∧ event ≠ .uncancel)
    → Transition.respond (step clears) task body = some (middle, answers)
    → (∀ isTask, ∃ next,
          step clears middle (.suspend (.future isTask)) = some (next, [.asked none])
          ∧ next.parent.phase = .waiting ((Waiter.new isTask).cancel none).1)
      ∧ (∃ next,
          step clears middle (.suspend .bareYield) = some (next, [])
          ∧ (step clears next .resume).map Prod.snd = some [.resumed (.cancelled none)])
      ∧ ∀ value, ∃ next,
          step clears middle (.finish (.returned value))
            = some (next, [.ended (.raised (.cancelledError none))])
          ∧ next.parent.cancelled = true

/-- As long as nobody else cancels the task, no cancellation reaches the awaitable, and it can
return.
-/
def Spares (clears : Bool) (task : State ε α) : Prop :=
  ∀ after final answers,
    (∀ event ∈ after, event.isCancel = false)
    → Transition.respond (step clears) task after = some (final, answers)
    → (∀ outputs ∈ answers, ∀ output ∈ outputs, output.isCancellation = false)
      ∧ ∀ value next outputs,
          step clears final (.finish (.returned value)) = some (next, outputs)
          → outputs = [.ended (.returned value)]

theorem Started.startedOnce {clears : Bool} {task : State ε α} (started : Started task)
    : StartedOnce clears task := by
  intro after final answers responded
  exact (Transition.respond_preserves (P := Started)
    (fun _ _ _ _ _ holds stepped => started_step holds stepped) started responded).2

theorem Started.keepsCount {clears : Bool} {task : State ε α} (started : Started task)
    : KeepsCount clears task := by
  intro after final answers responded pending
  have last := (Transition.respond_preserves (P := Started)
    (fun _ _ _ _ _ holds stepped => started_step holds stepped) started responded).1
  exact last.agrees pending

/-- A running task with a request that its awaitable has not met. -/
structure Asked (task : State ε α) : Prop where
  ready : task.ready = true
  running : task.parent.phase = .running
  mustCancel : task.parent.mustCancel = true
  message : task.parent.cancelMessage = none

theorem Asked.call {clears : Bool} {task next : State ε α} (asked : Asked task)
    {event : Event ε α} {outputs : List (Output ε α)}
    (call : event.isCall = true ∧ event ≠ .uncancel)
    (stepped : step clears task event = some (next, outputs))
    : Asked next := by
  obtain ⟨ready, running, mustCancel, message⟩ := asked
  cases event with
  | cancel message =>
      simp only [step, State.cancel, TaskLife.State.cancelled, running, Bool.false_eq_true,
        if_false, ready, if_true, TaskLife.State.cancel, Option.some.injEq, Prod.mk.injEq]
        at stepped
      obtain ⟨rfl, -⟩ := stepped
      exact ⟨rfl, running, rfl, rfl⟩
  | uncancel => exact absurd rfl call.2
  | cancelling =>
      obtain ⟨rfl, -⟩ := Prod.mk.inj (Option.some.inj stepped)
      exact ⟨ready, running, mustCancel, message⟩
  | resume => cases call.1
  | suspend target => cases call.1
  | finish ended => cases call.1
  | waiterEnds exception => cases call.1

theorem Asked.delivers {clears : Bool} {task : State ε α} (asked : Asked task)
    : Delivers clears task := by
  intro body middle answers calls responded
  obtain ⟨ready, running, mustCancel, message⟩ :=
    (Transition.respond_preserves (Q := fun _ => True)
      (fun _ event member _ _ holds stepped =>
        ⟨Asked.call holds (calls event member) stepped, trivial⟩) asked responded).1
  -- The base class suspends, is resumed and ends with the request that is on its way
  have suspends (target : TaskLife.Target)
      : step clears middle (.suspend target)
        = some ({ middle with parent := (middle.parent.suspend target).1 },
            (middle.parent.suspend target).2.map .asked) := by
    simp [step, TaskLife.step, running]
  refine ⟨fun isTask => ?_, ?_, fun value => ?_⟩
  · refine ⟨{ middle with parent := (middle.parent.suspend (.future isTask)).1 }, ?_, ?_⟩
    · rw [suspends]
      simp [TaskLife.State.suspend, mustCancel, message]
    · simp [TaskLife.State.suspend, mustCancel, message]
  · refine ⟨{ middle with parent := (middle.parent.suspend .bareYield).1 }, suspends _, ?_⟩
    simp [TaskLife.State.suspend, step, State.resume, TaskLife.State.resume,
      TaskLife.State.wakeup, mustCancel, message, TaskLife.State.ended?]
  · simp [step, TaskLife.step, running, TaskLife.State.finish, mustCancel, message,
      TaskLife.State.cancelled]

/-- A step of a started task that nobody cancels, and whose coroutine no request is on its way to.
-/
theorem Started.spared_step {clears : Bool} {task next : State ε α} (started : Started task)
    (calm : TaskLife.Calm task.parent) {event : Event ε α} {outputs : List (Output ε α)}
    (other : event.isCancel = false) (stepped : step clears task event = some (next, outputs))
    : TaskLife.Calm next.parent ∧ ∀ output ∈ outputs, output.isCancellation = false := by
  cases call : event.isCall with
  | false =>
      exact calm.step_own call (started.parent_step call stepped).1
  | true =>
      cases event with
      | cancel message => cases other
      | uncancel =>
          obtain ⟨rfl, rfl⟩ := Prod.mk.inj (Option.some.inj stepped)
          refine ⟨?_, by simp [Output.isCancellation]⟩
          simp only [State.uncancel, started.ready, if_true]
          split
          · exact calm.uncancel clears
          · exact calm
      | cancelling =>
          obtain ⟨rfl, rfl⟩ := Prod.mk.inj (Option.some.inj stepped)
          exact ⟨calm, by simp [Output.isCancellation]⟩
      | resume => cases call
      | suspend target => cases call
      | finish ended => cases call
      | waiterEnds exception => cases call

theorem Started.spares {clears : Bool} {task : State ε α} (started : Started task)
    (calm : TaskLife.Calm task.parent)
    : Spares clears task := by
  intro after final answers calls responded
  obtain ⟨⟨last, still⟩, answered⟩ :=
    Transition.respond_preserves
      (P := fun task : State ε α => Started task ∧ TaskLife.Calm task.parent)
      (fun _ event member _ _ holds stepped =>
        have spared := holds.1.spared_step holds.2 (calls event member) stepped
        ⟨⟨(started_step holds.1 stepped).1, spared.1⟩, spared.2⟩)
      ⟨started, calm⟩ responded
  refine ⟨answered, fun value next outputs stepped => ?_⟩
  have parentStepped := (last.parent_step rfl stepped).1
  simp only [TaskLife.step] at parentStepped
  split at parentStepped
  · simp only [TaskLife.State.finish, still.mustCancel, Bool.false_eq_true, if_false,
      Option.some.injEq, Prod.mk.injEq] at parentStepped
    exact parentStepped.2.symm
  · cases parentStepped

/-- A `GuaranteedTask`, whatever calls are made before its first step. That step starts the
awaitable, once and for all. A request that is left then reaches it at its first suspension,
and if none is left, none does. From there on the task counts with its base class.
-/
theorem starts_and_keeps (clears : Bool) (before : List (Event ε α))
    (calls : ∀ event ∈ before, event.isCall = true)
    : ∃ waiting answers started,
        Transition.respond (step clears) .new before = some (waiting, answers)
        ∧ (∀ outputs ∈ answers, .resumed .started ∉ outputs)
        ∧ step clears waiting .resume = some (started, [.resumed .started])
        ∧ StartedOnce clears started
        ∧ (0 < waiting.cancelling → Delivers clears started)
        ∧ (waiting.cancelling = 0 → Spares clears started)
        ∧ KeepsCount clears started := by
  have enabled (task : State ε α) (event : Event ε α) (member : event ∈ before)
      (waits : Waits task)
      : ∃ next outputs,
          step clears task event = some (next, outputs)
          ∧ Waits next
          ∧ .resumed .started ∉ outputs :=
    waits.call (calls event member)
  obtain ⟨waiting, answers, responded, waits, unstarted⟩ :=
    Transition.exists_respond enabled new_waits
  have started : Started (begun waiting.cancellationCount : State ε α) := begun_started _
  refine ⟨waiting, answers, begun waiting.cancellationCount, responded, unstarted, ?_,
    started.startedOnce, fun some => ?_, fun none => ?_, started.keepsCount⟩
  · simp [step, waits.resume, begun, TaskLife.State.ended?]
  · exact Asked.delivers ⟨rfl, rfl, decide_eq_true some, rfl⟩
  · refine started.spares ⟨?_, by simp [begun]⟩
    simpa [begun, State.cancelling] using none

/-- Two requests of which one is taken back, before the first step. -/
theorem starts_and_keeps_one_left
    : let before : List (Event String Nat) := [.cancel none, .cancel none, .uncancel]
      ∃ waiting answers, ∃ started : State String Nat,
        Transition.respond (step true) .new before = some (waiting, answers)
        ∧ waiting.cancelling = 1
        ∧ Delivers true started
        ∧ StartedOnce true started := by
  obtain ⟨waiting, answers, started, responded, -, -, once, delivers, -, -⟩ :=
    starts_and_keeps true ([.cancel none, .cancel none, .uncancel] : List (Event String Nat))
      (by decide)
  have left : waiting.cancelling = 1 := by
    obtain ⟨rfl, -⟩ := Prod.mk.inj (Option.some.inj responded)
    rfl
  exact ⟨waiting, answers, started, responded, left, delivers (by omega), once⟩

-----------------------------------------------------------------------------------------
-- The count and the readiness of the task, as `GuaranteedTask` keeps them
-----------------------------------------------------------------------------------------

/-- What the counts of the task are, without its coroutine. -/
def State.counts (task : State ε α) : GuaranteedTask :=
  { cancellationCount := task.cancellationCount
    ready := task.ready
    parent := { cancelling := task.parent.numCancelsRequested, message := none } }

/-- The state of the task as a future. -/
def State.futureState (task : State ε α) : FutureState ε α :=
  match task.parent.phase with
  | .done (.returned value) => .success value
  | .done (.raised (.cancelledError _)) => .cancelled
  | .done (.raised (.exception error)) => .exception error
  | .unstarted | .running | .sleeping | .waiting _ => .pending

theorem futureState_done (task : State ε α) : task.futureState.done = task.parent.done := by
  unfold State.futureState TaskLife.State.done
  split <;> simp_all

theorem futureState_isCancelled (task : State ε α)
    : task.futureState.isCancelled = task.parent.cancelled := by
  unfold State.futureState TaskLife.State.cancelled
  split <;> simp_all [FutureState.isCancelled]

theorem counts_cancel (task : State ε α) (message : Option String)
    : ((task.cancel message).1.counts, (task.cancel message).2.2)
      = task.counts.cancel task.futureState := by
  simp only [State.cancel, GuaranteedTask.cancel, GuaranteedTask.superCancel,
    futureState_isCancelled, futureState_done]
  split
  · rfl
  · cases ready : task.ready with
    | false => simp [State.counts, ready]
    | true =>
        cases done : task.parent.done with
        | true => simp [State.counts, ready, TaskLife.cancel_of_done done]
        | false =>
            simp [State.counts, ready, TaskLife.cancel_numCancelsRequested done, Task.cancel]

theorem counts_uncancel (clears : Bool) (task : State ε α)
    : (task.uncancel clears).counts = task.counts.uncancel := by
  obtain ⟨count, ready, parent⟩ := task
  by_cases some : count > 0
  · simp only [State.uncancel, GuaranteedTask.uncancel, State.counts, some, if_true]
    cases ready <;> simp [Task.uncancel]
  · simp [State.uncancel, GuaranteedTask.uncancel, State.counts, some]

theorem Waits.counts_firstStep {task : State ε α} (waits : Waits task)
    : task.counts.firstStep = some (begun task.cancellationCount : State ε α).counts := by
  obtain ⟨-, parent⟩ := waits
  simp [GuaranteedTask.firstStep, State.counts, parent, TaskLife.State.new, Task.iterate_cancel,
    begun]

end Aiodrive.GuaranteedLife
