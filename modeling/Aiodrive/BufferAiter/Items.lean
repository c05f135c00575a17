import Aiodrive.BufferAiter.Model
import Aiodrive.Cancellation.ContextualizeExit

/-! What a consumer receives from `buffer_aiter()`, and how its iteration ends. The generator has
no loop: it hands out the first item and then leaves its context, where the end of the source,
if the producer has met it, is raised.
-/

namespace Aiodrive.BufferAiter

open UseScope (Ending)

variable {α : Type*}

-----------------------------------------------------------------------------------------
-- The queue and its latch
-----------------------------------------------------------------------------------------

/-- Items keep their order, the latch is set while the queue holds one, and the producer asks for
another only where there is room for it.
-/
structure Queued (size : Option Nat) (items : List α) (state : State α) : Prop where
  items : state.received ++ state.queue ++ state.remaining = items
  latch : state.latch = !state.queue.isEmpty
  bounded : ∀ bound, size = some bound → state.queue.length ≤ bound
  room : state.producer = .asking → ∀ bound, size = some bound → state.queue.length < bound
  empty
    : state.producer = .unstarted ∨ state.producer = .waitUnset true → state.queue = []

/-- The producer's loop goes on where the queue has room, or waits. -/
theorem Queued.loopTop {size : Option Nat} {items : List α} {state : State α}
    (same : state.received ++ state.queue ++ state.remaining = items)
    (latch : state.latch = !state.queue.isEmpty)
    (bounded : ∀ bound, size = some bound → state.queue.length ≤ bound)
    (positive : ∀ bound, size = some bound → 0 < bound)
    : Queued size items (state.loopTop size) := by
  refine ⟨same, latch, bounded, ?_, ?_⟩
  · intro asking bound sized
    subst sized
    simp only [State.loopTop, Option.any_some, Bool.and_eq_true, decide_eq_true_eq] at asking
    split at asking
    · cases asking
    · rename_i notFull
      show state.queue.length < bound
      cases queue : state.queue with
      | nil => exact positive bound rfl
      | cons item rest =>
          rw [queue] at notFull latch
          simp only [latch, List.isEmpty_cons, Bool.not_false, and_true, Nat.not_le] at notFull
          exact notFull
  · intro waiting
    simp only [State.loopTop] at waiting
    split at waiting <;> simp at waiting

theorem Queued.produce {size : Option Nat} {items : List α} {state : State α} {item : α}
    {rest : List α} (queued : Queued size items state)
    (positive : ∀ bound, size = some bound → 0 < bound)
    (asking : state.producer = .asking) (remaining : state.remaining = item :: rest)
    : Queued size items (state.produce size item rest) := by
  refine Queued.loopTop ?_ ?_ ?_ positive
  · simpa [remaining] using queued.items
  · simp
  · intro bound sized
    have room := queued.room asking bound sized
    simp only [toggle_queue, List.length_append, List.length_singleton]
    omega

theorem Queued.pop {size : Option Nat} {items : List α} {state : State α} {item : α}
    {rest : List α} (queued : Queued size items state) (queue : state.queue = item :: rest)
    : Queued size items state.pop := by
  have nonempty : ¬(state.producer = .unstarted ∨ state.producer = .waitUnset true) := by
    intro waiting
    simp [queued.empty waiting] at queue
  have latch := queued.latch
  have items := queued.items
  have bounded := queued.bounded
  have room := queued.room
  simp only [queue, List.isEmpty_cons, Bool.not_false, List.length_cons] at latch items bounded room
  cases rest with
  | nil =>
      simp only [State.pop, queue, List.isEmpty_nil, if_true]
      refine ⟨by simpa using items, by simp, fun bound _ => by simp, ?_, fun _ => by simp⟩
      intro _ bound sized
      have := bounded bound sized
      simp only [toggle_queue, List.length_nil] at this ⊢
      omega
  | cons next rest =>
      simp only [State.pop, queue, List.isEmpty_cons, Bool.false_eq_true, if_false]
      refine ⟨by simpa using items, by simpa using latch, ?_, ?_, fun waiting => ?_⟩
      · intro bound sized
        exact Nat.le_of_succ_le (bounded bound sized)
      · intro asking bound sized
        exact Nat.lt_of_succ_lt (room asking bound sized)
      · exact absurd waiting nonempty

/-- What is done to the context or to the consumer alone does not touch the queue. -/
theorem Queued.frame {size : Option Nat} {items : List α} {state next : State α}
    (queued : Queued size items state) (received : next.received = state.received)
    (queue : next.queue = state.queue) (remaining : next.remaining = state.remaining)
    (latch : next.latch = state.latch)
    (producer : next.producer = state.producer ∨ next.producer = .ended)
    : Queued size items next := by
  refine ⟨?_, ?_, ?_, ?_, ?_⟩
  · rw [received, queue, remaining]
    exact queued.items
  · rw [latch, queue]
    exact queued.latch
  · rw [queue]
    exact queued.bounded
  · intro asking
    rw [queue]
    rcases producer with same | ended
    · exact queued.room (same ▸ asking)
    · cases ended.symm.trans asking
  · intro waiting
    rw [queue]
    rcases producer with same | ended
    · exact queued.empty (same ▸ waiting)
    · rw [ended] at waiting
      simp at waiting

-----------------------------------------------------------------------------------------
-- The context and the consumer
-----------------------------------------------------------------------------------------

/-- The exception that the producer ends with when the source has ended. -/
def sourceEnded : FutureState Failure Unit := .exception .stopAsyncIteration

/-- The producer ends in the background of the context, by the end of the source or by a request,
which is only made at the exit.
-/
structure Background (past : List Event) (state : State α) : Prop where
  kinds
    : state.context.background = .pending
      ∨ state.context.background = .cancelled
      ∨ state.context.background = sourceEnded
  producer : state.producer = .ended ↔ state.context.background.done = true
  reported : .sourceEnds ∈ past ↔ state.context.background = sourceEnded
  untouched : state.context.guaranteed.Untouched
  unstarted : state.producer = .unstarted ↔ state.context.guaranteed.ready = false
  scope : state.scopeCancelled = true → state.context.background = sourceEnded
  body
    : state.context.place = .body
      → state.context.guaranteed.cancellationCount = 0
        ∧ state.context.guaranteed.parent.cancelling = 0
        ∧ state.context.background ≠ .cancelled

/-- Where the consumer is says what it has received, and how its iteration went. -/
def Placed (state : State α) : Prop :=
  match state.consumer with
  | .waitSet woken =>
      state.received = [] ∧ state.context.place = .body ∧ (woken = true → state.queue ≠ [])
  | .holding => state.received.length = 1 ∧ state.context.place = .body
  | .leaving =>
      state.received.length = 1
      ∧ state.context.place = .awaiting .returned .returned false
      ∧ state.context.guaranteed.cancellationCount = 1
  | .finished .normal =>
      state.received.length = 1 ∧ state.context.background = .cancelled
  | .finished .runtimeError | .finished .cancelledError => state.context.background = sourceEnded
  | .finished (.raised _) => False

structure Sound (size : Option Nat) (items : List α) (past : List Event) (state : State α)
    : Prop where
  queued : Queued size items state
  background : Background past state
  placed : Placed state

theorem initial_sound (size : Option Nat) (current : Task) (items : List α)
    : Sound size items [] (State.initial current items) := by
  refine ⟨⟨?_, rfl, ?_, ?_, fun _ => rfl⟩, ⟨?_, ?_, ?_, ?_, ?_, ?_, ?_⟩, ?_⟩
  · simp [State.initial]
  · simp [State.initial]
  · simp [State.initial]
  · exact .inl rfl
  · simp [State.initial, Contextualize.State.initial]
  · simp [State.initial, Contextualize.State.initial, sourceEnded]
  · exact GuaranteedTask.new_untouched
  · simp [State.initial, Contextualize.State.initial, GuaranteedTask.new]
  · simp [State.scopeCancelled, State.initial, Contextualize.State.initial]
  · simp [State.initial, Contextualize.State.initial, GuaranteedTask.new]
  · simp [Placed, State.initial, Contextualize.State.initial]

-----------------------------------------------------------------------------------------
-- What each step keeps
-----------------------------------------------------------------------------------------

/-- A step that leaves the context as it is and lets the producer neither start nor end. -/
theorem Background.frame {past : List Event} {event : Event} {state next : State α}
    (background : Background past state) (other : event ≠ .sourceEnds)
    (context : next.context = state.context)
    (ended : next.producer = .ended ↔ state.producer = .ended)
    (unstarted : next.producer = .unstarted ↔ state.producer = .unstarted)
    : Background (past ++ [event]) next := by
  refine ⟨?_, ?_, ?_, ?_, ?_, ?_, ?_⟩
  · exact context ▸ background.kinds
  · rw [ended, context]
    exact background.producer
  · rw [context, List.mem_append, List.mem_singleton, or_iff_left (Ne.symm other)]
    exact background.reported
  · exact context ▸ background.untouched
  · rw [unstarted, context]
    exact background.unstarted
  · intro cancelled
    rw [context]
    exact background.scope (by simpa [State.scopeCancelled, context] using cancelled)
  · exact context ▸ background.body

/-- The producer ends with the end of the source, or with a request at the exit. -/
theorem Background.endProducer {past : List Event} {event : Event} {state : State α}
    {ended : FutureState Failure Unit} (background : Background past state)
    (running : state.context.background = .pending)
    (kind
      : (event = .sourceEnds ∧ ended = sourceEnded)
        ∨ (event ≠ .sourceEnds ∧ ended = .cancelled ∧ state.producerCancelled = true))
    (started : state.producer ≠ .unstarted)
    : Background (past ++ [event]) (state.endProducer ended) := by
  have unreported : .sourceEnds ∉ past := by
    rw [background.reported, running]
    simp [sourceEnded]
  have calm : state.scopeCancelled ≠ true := by
    intro cancelled
    simp [background.scope cancelled, sourceEnded] at running
  have ready : state.context.guaranteed.ready ≠ false := fun unready =>
    started (background.unstarted.mpr unready)
  rcases kind with ⟨rfl, rfl⟩ | ⟨other, rfl, cancelled⟩
  · refine ⟨.inr (.inr rfl), ?_, ?_, background.untouched, ?_, fun cancelled => ?_, ?_⟩
    · simp [State.endProducer, Contextualize.State.endBackground, sourceEnded]
    · simp [State.endProducer, Contextualize.State.endBackground]
    · simpa [State.endProducer, Contextualize.State.endBackground] using ready
    · exact absurd cancelled calm
    · intro body
      have ⟨count, parent, _⟩ := background.body body
      exact ⟨count, parent, by simp [State.endProducer, Contextualize.State.endBackground,
        sourceEnded]⟩
  · refine ⟨.inr (.inl rfl), ?_, ?_, background.untouched, ?_, fun cancelled => ?_, ?_⟩
    · simp [State.endProducer, Contextualize.State.endBackground]
    · simp [State.endProducer, Contextualize.State.endBackground, sourceEnded, unreported,
        Ne.symm other]
    · simpa [State.endProducer, Contextualize.State.endBackground] using ready
    · exact absurd cancelled calm
    · intro body
      obtain ⟨-, zero, -⟩ := background.body body
      simp [State.producerCancelled, zero] at cancelled

/-- The exit of a scope does not change how often it was cancelled. -/
theorem exit_cancellationCount (scope : UseScope.Scope) (task : Task) (ending : Ending Failure)
    : (UseScope.exit scope task ending).1.cancellationCount = scope.cancellationCount := by
  cases ending <;> rfl

/-- What leaving the body of a context keeps. -/
theorem leaveBody_frame (context : Contextualize.State Failure) (ending : Ending Failure)
    : (context.leaveBody Failure.stops ending).background = context.background
      ∧ (context.leaveBody Failure.stops ending).guaranteed.ready = context.guaranteed.ready
      ∧ (context.leaveBody Failure.stops ending).scope.cancellationCount
        = context.scope.cancellationCount
      ∧ (context.guaranteed.Untouched
        → (context.leaveBody Failure.stops ending).guaranteed.Untouched)
      ∧ (context.leaveBody Failure.stops ending).place ≠ .body := by
  have count := exit_cancellationCount context.scope context.current ending
  unfold Contextualize.State.leaveBody
  simp only
  split
  · exact ⟨rfl, rfl, count, id, by simp⟩
  · exact ⟨rfl, GuaranteedTask.cancel_ready _ _, count, fun untouched => untouched.cancel _,
      by simp⟩

/-- The generator leaves the context, which passes a request on to a producer that still runs. -/
theorem Background.leave {past : List Event} {event : Event} {state : State α}
    (background : Background past state) (other : event ≠ .sourceEnds)
    (ending : Ending Failure)
    : Background (past ++ [event]) (state.leave ending) := by
  obtain ⟨same, ready, count, untouched, left⟩ := leaveBody_frame state.context ending
  refine ⟨?_, ?_, ?_, untouched background.untouched, ?_, fun cancelled => ?_, fun body => ?_⟩
  · exact same ▸ background.kinds
  · exact same ▸ background.producer
  · rw [List.mem_append, List.mem_singleton, or_iff_left (Ne.symm other)]
    exact same ▸ background.reported
  · exact ready ▸ background.unstarted
  · refine same.trans (background.scope ?_)
    simpa [State.scopeCancelled, State.leave, count] using cancelled
  · exact absurd body left

/-- Where the source has ended, leaving the context raises `StopAsyncIteration` inside the async
generator.
-/
theorem leave_sourceEnded {state : State α} (ended : state.context.background = sourceEnded)
    (ending : Ending Failure) (quiet : ∀ error, ending ≠ .raised error)
    : (state.leave ending).consumer = .finished .runtimeError := by
  have done : state.context.background.done = true := by
    rw [ended]
    rfl
  have place : (state.context.leaveBody Failure.stops ending).place
      = .exited ending
          (Contextualize.conclude Failure.stops
            (UseScope.exit state.context.scope state.context.current ending).2.2
            (CancelTask.awaitTask sourceEnded)) := by
    simp only [Contextualize.State.leaveBody, done, if_true]
    rw [ended]
  simp only [State.leave, place]
  cases exit : (UseScope.exit state.context.scope state.context.current ending).2.2 with
  | returned => rfl
  | suppressed => rfl
  | cancelledError => rfl
  | raised error =>
      rw [Contextualize.exit_eq_raised_iff] at exit
      exact absurd exit (quiet error)

/-- Where the producer still runs, it is cancelled and awaited. -/
theorem leave_pending {state : State α} (pending : state.context.background = .pending)
    (zero : state.context.guaranteed.cancellationCount = 0)
    : (state.leave .returned).consumer = .leaving
      ∧ (state.leave .returned).context.place = .awaiting .returned .returned false
      ∧ (state.leave .returned).context.guaranteed.cancellationCount = 1 := by
  simp only [State.leave, Contextualize.State.leaveBody, pending, FutureState.done_pending,
    Bool.false_eq_true, if_false, UseScope.exit, GuaranteedTask.cancel,
    FutureState.isCancelled]
  refine ⟨trivial, trivial, ?_⟩
  cases state.context.guaranteed.ready <;>
    simp [zero, GuaranteedTask.superCancel]

/-- `cancel_task()` suppresses the cancellation that it asked for, and raises the end of the source.
-/
theorem resume_requested {background : FutureState Failure Unit} {guaranteed : GuaranteedTask}
    (one : guaranteed.cancellationCount = 1)
    (kinds : background = .cancelled ∨ background = sourceEnded)
    : Finish.ofExit (Contextualize.conclude Failure.stops .returned
          (CancelTask.resume background guaranteed false).2)
        = if background = .cancelled then .normal else .runtimeError := by
  rcases kinds with rfl | rfl
  · have none : TaskLike.cancelling guaranteed.uncancel = 0 := by
      have law := TaskLike.cancelling_uncancel guaranteed
      simpa [one, TaskLike.cancelling, TaskLike.uncancel] using law
    simp only [CancelTask.resume, CancelTask.awaitTask, FutureState.result, Bool.false_eq_true,
      if_false, TaskLike.uncancel, none, gt_iff_lt, Nat.lt_irrefl, if_true]
    rfl
  · rfl

/-- The callback of the background task cancels the scope only if the source has ended. -/
theorem Background.runCallback {past : List Event} {state : State α}
    (background : Background past state)
    : Background (past ++ [.callbackRuns]) { state with context := state.context.runCallback } := by
  obtain ⟨same, guaranteed, -, place⟩ := Contextualize.runCallback_frame state.context
  refine ⟨?_, ?_, ?_, ?_, ?_, fun cancelled => ?_, ?_⟩
  · exact same ▸ background.kinds
  · exact same ▸ background.producer
  · simp only [List.mem_append, List.mem_singleton, reduceCtorEq, or_false]
    exact same ▸ background.reported
  · exact guaranteed ▸ background.untouched
  · exact guaranteed ▸ background.unstarted
  · have uncancelled (none : state.context.background.exception? = none)
        : state.context.runCallback.background = sourceEnded := by
      refine same.trans (background.scope ?_)
      simpa [Contextualize.State.runCallback, none, State.scopeCancelled] using cancelled
    rcases background.kinds with pending | requested | ended
    · exact uncancelled (by rw [pending]; rfl)
    · exact uncancelled (by rw [requested]; rfl)
    · exact same.trans ended
  · simp only [place, guaranteed, same]
    exact background.body

theorem Background.pending {past : List Event} {state : State α}
    (background : Background past state) (running : state.producer ≠ .ended)
    : state.context.background = .pending := by
  rw [← FutureState.done_eq_false_iff, ← Bool.not_eq_true, ← background.producer]
  exact running

/-- The first step of the producer runs its awaitable. -/
theorem Background.start {past : List Event} {state : State α}
    {context : Contextualize.State Failure}
    (background : Background past state) (unstarted : state.producer = .unstarted)
    (stepped : Contextualize.step Failure.stops state.context .firstStep = some context)
    : context.background = .pending
      ∧ context.place = state.context.place
      ∧ context.guaranteed.cancellationCount = state.context.guaranteed.cancellationCount
      ∧ ∀ next : State α,
          next.context = context
          → next.producer ≠ .unstarted
          → next.producer ≠ .ended
          → Background (past ++ [.producerStarts]) next := by
  have pending := background.pending (by simp [unstarted])
  have unreported : .sourceEnds ∉ past := by
    rw [background.reported, pending]
    simp [sourceEnded]
  have calm : state.scopeCancelled ≠ true := by
    intro cancelled
    simp [background.scope cancelled, sourceEnded] at pending
  cases Contextualize.move_of_step stepped with
  | skips notDone unready first =>
      obtain ⟨after, enters, -⟩ := background.untouched.firstStep unready
      simp [enters] at first
  | starts notDone unready first =>
      rename_i guaranteed
      simp only [GuaranteedTask.firstStep, background.untouched unready, gt_iff_lt,
        Nat.lt_irrefl, if_false, Option.some.injEq] at first
      subst first
      refine ⟨pending, rfl, rfl, ?_⟩
      rintro next same begun running
      refine ⟨.inl ?_, ?_, ?_, ?_, ?_, fun cancelled => ?_, fun body => ?_⟩
      · rw [same, pending]
      · simp [same, pending, running]
      · simp [same, pending, sourceEnded, unreported]
      · simp [same, GuaranteedTask.Untouched]
      · simp [same, begun]
      · refine absurd ?_ calm
        simpa [State.scopeCancelled, same] using cancelled
      · rw [same] at body
        obtain ⟨count, parent, -⟩ := background.body body
        simp [same, count, parent, pending]

/-- What the consumer has is not changed by what the producer does. -/
theorem Placed.frame {state next : State α} (placed : Placed state)
    (consumer : next.consumer = state.consumer) (received : next.received = state.received)
    (queue : state.queue ≠ [] → next.queue ≠ [])
    (place : next.context.place = state.context.place)
    (count
      : next.context.guaranteed.cancellationCount = state.context.guaranteed.cancellationCount)
    (background
      : next.context.background = state.context.background
        ∨ state.context.background = .pending)
    : Placed next := by
  unfold Placed at placed ⊢
  rw [consumer, received, place, count]
  cases here : state.consumer with
  | waitSet woken =>
      rw [here] at placed
      exact ⟨placed.1, placed.2.1, fun set => queue (placed.2.2 set)⟩
  | holding =>
      rw [here] at placed
      exact placed
  | leaving =>
      rw [here] at placed
      exact placed
  | finished finish =>
      rw [here] at placed
      cases finish with
      | normal =>
          rcases background with same | pending
          · exact ⟨placed.1, same.trans placed.2⟩
          · simp [pending] at placed
      | runtimeError =>
          rcases background with same | pending
          · exact same.trans placed
          · simp [pending, sourceEnded] at placed
      | cancelledError =>
          rcases background with same | pending
          · exact same.trans placed
          · simp [pending, sourceEnded] at placed
      | raised outcome => exact placed

/-- A new item may wake the consumer, which then finds it. -/
theorem Placed.produce {state : State α} (placed : Placed state) (size : Option Nat) (item : α)
    (rest : List α)
    : Placed (state.produce size item rest) := by
  have queue : (state.produce size item rest).queue ≠ [] := by
    simp [State.produce, State.loopTop]
  have received : (state.produce size item rest).received = state.received := by
    simp [State.produce, State.loopTop]
  have context : (state.produce size item rest).context = state.context := by
    simp [State.produce, State.loopTop]
  have consumer : (state.produce size item rest).consumer = state.consumer
      ∨ (state.produce size item rest).consumer = state.consumer.wake := by
    simp only [State.produce, State.loopTop, State.toggle]
    split
    · exact .inl rfl
    · exact .inr rfl
  cases here : state.consumer with
  | waitSet woken =>
      simp only [Placed, here] at placed
      have waits : ∃ woken, (state.produce size item rest).consumer = .waitSet woken := by
        rcases consumer with same | woke
        · exact ⟨woken, same.trans here⟩
        · exact ⟨true, woke.trans (by rw [here]; rfl)⟩
      obtain ⟨woken, waits⟩ := waits
      simp only [Placed, waits]
      exact ⟨received.trans placed.1, context ▸ placed.2.1, fun _ => queue⟩
  | holding | leaving | finished finish =>
      refine placed.frame ?_ received (fun _ => queue) (by rw [context]) (by rw [context])
        (.inl (by rw [context]))
      rcases consumer with same | woke
      · exact same
      · rw [woke, here]
        rfl

theorem pop_producer {state : State α} {item : α} {rest : List α}
    (queue : state.queue = item :: rest)
    : state.pop.producer = state.producer ∨ state.pop.producer = state.producer.wake := by
  cases rest with
  | nil =>
      simp only [State.pop, queue, List.isEmpty_nil, if_true, State.toggle]
      split
      · exact .inl rfl
      · exact .inr rfl
  | cons next rest => exact .inl (by simp [State.pop, queue])

/-- The consumer takes the first item, where one is queued. -/
theorem Placed.pop {state : State α} {item : α} {rest : List α}
    (queue : state.queue = item :: rest) (first : state.received = [])
    (place : state.context.place = .body)
    : Placed state.pop := by
  cases rest with
  | nil =>
      have consumer : state.pop.consumer = .holding := by
        simp only [State.pop, queue, List.isEmpty_nil, if_true, State.toggle]
        split <;> rfl
      simp [Placed, consumer]
      simp [State.pop, queue, first, place]
  | cons next rest =>
      simp [Placed, State.pop, queue, first, place]

section

variable {size : Option Nat} {items : List α} {past : List Event} {state next : State α}

/-- The producer goes around its loop for the first time. -/
theorem Sound.producerStarts (positive : ∀ bound, size = some bound → 0 < bound)
    (sound : Sound size items past state)
    (stepped : step size state .producerStarts = some next)
    : Sound size items (past ++ [.producerStarts]) next := by
  obtain ⟨queued, background, placed⟩ := sound
  simp only [step] at stepped
  split at stepped
  · rename_i unstarted
    obtain ⟨context, started, same⟩ := Option.map_eq_some_iff.mp stepped
    obtain ⟨pending, place, count, sound⟩ := background.start unstarted started
    simp only [pending, FutureState.done_pending, Bool.false_eq_true, if_false] at same
    subst same
    refine ⟨?_, sound _ rfl ?_ ?_, ?_⟩
    · exact Queued.loopTop queued.items queued.latch queued.bounded positive
    · simp
    · simp
    · exact placed.frame rfl rfl id place count
        (.inr (background.pending (by simp [unstarted])))
  · cases stepped

/-- The producer queues an item, and wakes the consumer. -/
theorem Sound.sourceYields (positive : ∀ bound, size = some bound → 0 < bound)
    (sound : Sound size items past state)
    (stepped : step size state .sourceYields = some next)
    : Sound size items (past ++ [.sourceYields]) next := by
  obtain ⟨queued, background, placed⟩ := sound
  simp only [step] at stepped
  split at stepped
  · rename_i item rest asking remaining
    obtain rfl := Option.some.inj stepped
    refine ⟨queued.produce positive asking remaining, ?_, ?_⟩
    · exact background.frame (by simp) (by simp [State.produce, State.loopTop])
        (by simp [State.produce, asking]) (by simp [State.produce, asking])
    · exact placed.produce size item rest
  · cases stepped

/-- The end of the source ends the producer. -/
theorem Sound.sourceEnds (sound : Sound size items past state)
    (stepped : step size state .sourceEnds = some next)
    : Sound size items (past ++ [.sourceEnds]) next := by
  obtain ⟨queued, background, placed⟩ := sound
  simp only [step] at stepped
  split at stepped
  · rename_i asking remaining
    obtain rfl := Option.some.inj stepped
    have pending := background.pending (by simp [asking])
    refine ⟨queued.frame rfl rfl rfl rfl (.inr rfl), ?_, ?_⟩
    · exact background.endProducer pending (.inl ⟨rfl, rfl⟩) (by simp [asking])
    · exact placed.frame rfl rfl id rfl rfl (.inr pending)
  · cases stepped

/-- The producer asks the source once the consumer has emptied the queue. -/
theorem Sound.producerWakes (positive : ∀ bound, size = some bound → 0 < bound)
    (sound : Sound size items past state)
    (stepped : step size state .producerWakes = some next)
    : Sound size items (past ++ [.producerWakes]) next := by
  obtain ⟨queued, background, placed⟩ := sound
  simp only [step] at stepped
  split at stepped
  · rename_i waiting
    split at stepped
    · cases stepped
    · obtain rfl := Option.some.inj stepped
      refine ⟨?_, ?_, placed.frame rfl rfl id rfl rfl (.inl rfl)⟩
      · have empty := queued.empty (.inr waiting)
        refine ⟨queued.items, queued.latch, queued.bounded, ?_, fun other => ?_⟩
        · intro _ bound sized
          simpa [empty] using positive bound sized
        · exact empty
      · exact background.frame (by simp) rfl (by simp [waiting]) (by simp [waiting])
  · cases stepped

/-- A request of the exit ends the producer wherever it waits. -/
theorem Sound.producerCancelled (sound : Sound size items past state)
    (stepped : step size state .producerCancelled = some next)
    : Sound size items (past ++ [.producerCancelled]) next := by
  obtain ⟨queued, background, placed⟩ := sound
  have ends (running : state.producer ≠ .ended) (started : state.producer ≠ .unstarted)
      (requested : state.producerCancelled = true)
      : Sound size items (past ++ [.producerCancelled]) (state.endProducer .cancelled) := by
    have pending := background.pending running
    refine ⟨queued.frame rfl rfl rfl rfl (.inr rfl), ?_, ?_⟩
    · exact background.endProducer pending (.inr ⟨by simp, rfl, requested⟩) started
    · exact placed.frame rfl rfl id rfl rfl (.inr pending)
  simp only [step] at stepped
  split at stepped
  · rename_i woken waiting
    split at stepped
    · exact Option.some.inj stepped ▸ ends (by simp [waiting]) (by simp [waiting]) ‹_›
    · cases stepped
  · rename_i asking
    split at stepped
    · exact Option.some.inj stepped ▸ ends (by simp [asking]) (by simp [asking]) ‹_›
    · cases stepped
  · cases stepped

/-- The callback of the context cancels the scope, if the source has ended. -/
theorem Sound.callbackRuns (sound : Sound size items past state)
    (stepped : step size state .callbackRuns = some next)
    : Sound size items (past ++ [.callbackRuns]) next := by
  obtain ⟨queued, background, placed⟩ := sound
  obtain ⟨context, ran, rfl⟩ := Option.map_eq_some_iff.mp stepped
  cases Contextualize.move_of_step ran with
  | runsCallback scheduled =>
      obtain ⟨same, guaranteed, -, place⟩ := Contextualize.runCallback_frame state.context
      refine ⟨queued.frame rfl rfl rfl rfl (.inl rfl), background.runCallback, ?_⟩
      exact placed.frame rfl rfl id place (by simp [guaranteed]) (.inl same)

/-- The consumer takes the item it was woken for. -/
theorem Sound.consumerWakes (sound : Sound size items past state)
    (stepped : step size state .consumerWakes = some next)
    : Sound size items (past ++ [.consumerWakes]) next := by
  obtain ⟨queued, background, placed⟩ := sound
  simp only [step] at stepped
  split at stepped
  · rename_i here
    split at stepped
    · cases stepped
    · obtain rfl := Option.some.inj stepped
      simp only [Placed, here] at placed
      obtain ⟨first, place, found⟩ := placed
      obtain ⟨item, rest, queue⟩ := List.exists_cons_of_ne_nil (found trivial)
      refine ⟨queued.pop queue, ?_, Placed.pop queue first place⟩
      have producer := pop_producer queue
      refine background.frame (by simp) ?_ ?_ ?_
      · cases rest <;> simp [State.pop, queue]
      · rcases producer with same | woke
        · rw [same]
        · rw [woke, wake_eq_ended_iff]
      · rcases producer with same | woke
        · rw [same]
        · rw [woke, wake_eq_unstarted_iff]
  · cases stepped

/-- The consumer is cancelled by its own scope, once the source has ended. -/
theorem Sound.consumerCancelled (sound : Sound size items past state)
    (stepped : step size state .consumerCancelled = some next)
    : Sound size items (past ++ [.consumerCancelled]) next := by
  obtain ⟨queued, background, placed⟩ := sound
  simp only [step] at stepped
  split at stepped
  · rename_i cancelled
    have ended := background.scope cancelled
    split at stepped
    · obtain rfl := Option.some.inj stepped
      refine ⟨queued.frame rfl rfl rfl rfl (.inl rfl), background.leave (by simp) _, ?_⟩
      simp only [Placed, leave_sourceEnded ended .cancelledError (by simp)]
      exact (leaveBody_frame state.context .cancelledError).1.trans ended
    · obtain rfl := Option.some.inj stepped
      refine ⟨queued.frame rfl rfl rfl rfl (.inl rfl), ?_, ended⟩
      exact background.frame (by simp) rfl Iff.rfl Iff.rfl
    · cases stepped
  · cases stepped

/-- The generator leaves its context when it is asked for a second item. -/
theorem Sound.consumerAsks (sound : Sound size items past state)
    (stepped : step size state .consumerAsks = some next)
    : Sound size items (past ++ [.consumerAsks]) next := by
  obtain ⟨queued, background, placed⟩ := sound
  simp only [step] at stepped
  split at stepped
  · rename_i here
    split at stepped
    · cases stepped
    · obtain rfl := Option.some.inj stepped
      simp only [Placed, here] at placed
      obtain ⟨received, place⟩ := placed
      obtain ⟨zero, -, notCancelled⟩ := background.body place
      refine ⟨queued.frame rfl rfl rfl rfl (.inl rfl), background.leave (by simp) _, ?_⟩
      rcases background.kinds with pending | requested | ended
      · obtain ⟨leaving, awaiting, one⟩ := leave_pending pending zero
        simp only [Placed, leaving]
        exact ⟨received, awaiting, one⟩
      · exact absurd requested notCancelled
      · simp only [Placed, leave_sourceEnded ended .returned (by simp)]
        exact (leaveBody_frame state.context .returned).1.trans ended
  · cases stepped

/-- The exit of the context is over, and so is the iteration. -/
theorem Sound.consumerResumes (sound : Sound size items past state)
    (stepped : step size state .consumerResumes = some next)
    : Sound size items (past ++ [.consumerResumes]) next := by
  obtain ⟨queued, background, placed⟩ := sound
  simp only [step] at stepped
  split at stepped
  · rename_i here
    obtain ⟨context, resumed, rfl⟩ := Option.map_eq_some_iff.mp stepped
    simp only [Placed, here] at placed
    obtain ⟨received, awaiting, one⟩ := placed
    cases Contextualize.move_of_step resumed with
    | concludes place done =>
        obtain ⟨rfl, rfl, rfl⟩ : _ ∧ _ ∧ _ := by simpa using place.symm.trans awaiting
        have ended := background.kinds.resolve_left (by
          intro pending
          simp [pending] at done)
        have outcome := resume_requested one ended
        obtain ⟨untouched, ready⟩ :=
          Contextualize.resume_guaranteed state.context.background background.untouched false
        refine ⟨queued.frame rfl rfl rfl rfl (.inl rfl), ?_, ?_⟩
        · refine ⟨background.kinds, background.producer, ?_, untouched, ?_,
            background.scope, by simp⟩
          · simpa using background.reported
          · simp only [ready]
            exact background.unstarted
        · rcases ended with requested | ended
          · rw [if_pos requested] at outcome
            simp only [Placed, outcome]
            exact ⟨received, requested⟩
          · rw [if_neg (by simp [ended, sourceEnded])] at outcome
            simp only [Placed, outcome]
            exact ended
  · cases stepped

/-- Every step keeps the invariant, one lemma for each event. -/
theorem step_sound (positive : ∀ bound, size = some bound → 0 < bound) {event : Event}
    (sound : Sound size items past state) (stepped : step size state event = some next)
    : Sound size items (past ++ [event]) next := by
  cases event with
  | producerStarts => exact sound.producerStarts positive stepped
  | sourceYields => exact sound.sourceYields positive stepped
  | sourceEnds => exact sound.sourceEnds stepped
  | producerWakes => exact sound.producerWakes positive stepped
  | producerCancelled => exact sound.producerCancelled stepped
  | callbackRuns => exact sound.callbackRuns stepped
  | consumerWakes => exact sound.consumerWakes stepped
  | consumerCancelled => exact sound.consumerCancelled stepped
  | consumerAsks => exact sound.consumerAsks stepped
  | consumerResumes => exact sound.consumerResumes stepped

end

theorem run_sound {size : Option Nat} (positive : ∀ bound, size = some bound → 0 < bound)
    {current : Task} {items : List α} {events : List Event} {final : State α}
    (reached : Transition.run (step size) (.initial current items) events = some final)
    : Sound size items events final :=
  Transition.run_preserves_history (fun _ _ _ _ => step_sound positive)
    (initial_sound size current items) reached

-----------------------------------------------------------------------------------------
-- The items that are received
-----------------------------------------------------------------------------------------

/-- The consumer has received the items in order, its loop has ended normally, and the queue was
within its bound all along.
-/
structure Faithful (size : Option Nat) (current : Task) (items : List α) (events : List Event)
    (final : State α) (finish : Finish) : Prop where
  received : final.received = items
  finish : finish = .normal
  bounded
    : ∀ visited middle,
        visited.IsPrefix events
        → Transition.run (step size) (.initial current items) visited = some middle
        → ∀ bound, size = some bound → middle.queue.length ≤ bound

/-- A consumer that comes to the end of its loop has received all items, and the loop ends
normally, exactly when there is one item and the producer has not met the end of the source.
-/
theorem buffer_aiter_faithful_iff {size : Option Nat}
    (positive : ∀ bound, size = some bound → 0 < bound) {current : Task} {items : List α}
    {events : List Event} {final : State α} {finish : Finish}
    (reached : Transition.run (step size) (.initial current items) events = some final)
    (finished : final.consumer = .finished finish)
    : Faithful size current items events final finish
      ↔ items.length = 1 ∧ .sourceEnds ∉ events := by
  obtain ⟨queued, background, placed⟩ := run_sound positive reached
  simp only [Placed, finished] at placed
  constructor
  · rintro ⟨rfl, rfl, -⟩
    refine ⟨placed.1, ?_⟩
    rw [background.reported, placed.2]
    simp [sourceEnded]
  · rintro ⟨one, unmet⟩
    rw [background.reported] at unmet
    have bounded : ∀ visited middle,
        visited.IsPrefix events
        → Transition.run (step size) (.initial current items) visited = some middle
        → ∀ bound, size = some bound → middle.queue.length ≤ bound :=
      fun visited middle _ here => (run_sound positive here).queued.bounded
    cases finish with
    | normal =>
        refine ⟨?_, rfl, bounded⟩
        have split := queued.items
        rw [List.append_assoc] at split
        refine (List.prefix_append _ _).eq_of_length ?_ |>.trans split
        rw [split, one, placed.1]
    | runtimeError => exact absurd placed unmet
    | cancelledError => exact absurd placed unmet
    | raised outcome => exact placed.elim

/-- One item, and a consumer that asks for the next while the producer waits for the source. -/
theorem buffer_aiter_faithful_one
    : ∃ final,
        Transition.run (step (some 1)) (.initial ⟨0, none⟩ ["a"])
            [.producerStarts, .sourceYields, .consumerWakes, .producerWakes, .consumerAsks,
              .producerCancelled, .consumerResumes]
          = some final
        ∧ Faithful (some 1) ⟨0, none⟩ ["a"]
            [.producerStarts, .sourceYields, .consumerWakes, .producerWakes, .consumerAsks,
              .producerCancelled, .consumerResumes]
            final .normal :=
  ⟨_, rfl, (buffer_aiter_faithful_iff (by simp) rfl rfl).mpr ⟨rfl, by decide⟩⟩

/-- Of two items the second is not received, and a source without items ends the consumer's loop
with a `RuntimeError`.
-/
theorem buffer_aiter_loses_item
    : (∃ final,
          Transition.run (step none) (.initial ⟨0, none⟩ ["a", "b"])
              [.producerStarts, .sourceYields, .sourceYields, .consumerWakes, .consumerAsks,
                .producerCancelled, .consumerResumes]
            = some final
          ∧ final.consumer = .finished .normal
          ∧ final.received ≠ ["a", "b"])
      ∧ ∃ final,
          Transition.run (step none) (.initial ⟨0, none⟩ ([] : List String))
              [.producerStarts, .sourceEnds, .callbackRuns, .consumerCancelled]
            = some final
          ∧ final.consumer = .finished .runtimeError :=
  ⟨⟨_, rfl, rfl, by decide⟩, ⟨_, rfl, rfl⟩⟩

end Aiodrive.BufferAiter
