import Aiodrive.Cancellation.Contextualize
import Aiodrive.Transition.Runs

/-! `buffer_aiter()` of `modules/aiter.py`, and a consumer that iterates over it: a producer in the
background of `contextualize()` that fills a queue, and a latch that tells whether the queue
holds an item.
-/

namespace Aiodrive.BufferAiter

open Contextualize (ContextExit)
open UseScope (Ending)

variable {α : Type*}

/-- The exceptions of the code itself: of `anext()` on a source that has ended, and of
`queue.popleft()` on an empty queue.
-/
inductive Failure where
  | stopAsyncIteration
  | indexError
deriving DecidableEq, Repr

/-- Which of them an async generator turns into a `RuntimeError`. -/
def Failure.stops : Failure → Bool
  | stopAsyncIteration => true
  | indexError => false

/-- Where `producer()` is: before its first step, in `latch.wait_unset()`, which has been woken or
not, in `anext(iterator)`, or at its end.
-/
inductive Producer where
  | unstarted
  | waitUnset (woken : Bool)
  | asking
  | ended
deriving DecidableEq, Repr

/-- How the consumer's `async for` ends. -/
inductive Finish where
  | normal
  /-- A `StopAsyncIteration` that left the body of an async generator. -/
  | runtimeError
  /-- A `CancelledError` in the consumer's own code. -/
  | cancelledError
  | raised (outcome : ContextExit Failure)
deriving DecidableEq, Repr

/-- Where the consumer is: in the generator, at its `latch.wait_set()`; in its own code, with an
item; in the generator, at the exit of `contextualize()`; or behind its loop.
-/
inductive Consumer where
  | waitSet (woken : Bool)
  | holding
  | leaving
  | finished (finish : Finish)
deriving DecidableEq, Repr

structure State (α : Type*) where
  context : Contextualize.State Failure
  /-- The items that the source has not produced yet. -/
  remaining : List α
  producer : Producer
  queue : List α
  /-- `latch.is_set()` -/
  latch : Bool
  consumer : Consumer
  received : List α

/-- The consumer has started the generator, which waits for its first item. -/
def State.initial (current : Task) (items : List α) : State α where
  context := .initial current
  remaining := items
  producer := .unstarted
  queue := []
  latch := false
  consumer := .waitSet false
  received := []

def Producer.wake : Producer → Producer
  | waitUnset _ => waitUnset true
  | producer => producer

@[simp] theorem wake_eq_ended_iff (producer : Producer)
    : producer.wake = .ended ↔ producer = .ended := by
  cases producer <;> simp [Producer.wake]

@[simp] theorem wake_eq_unstarted_iff (producer : Producer)
    : producer.wake = .unstarted ↔ producer = .unstarted := by
  cases producer <;> simp [Producer.wake]

def Consumer.wake : Consumer → Consumer
  | waitSet _ => waitSet true
  | consumer => consumer

/-- `Latch.toggle(value)`, which wakes whoever waits for a change. -/
def State.toggle (state : State α) (value : Bool) : State α :=
  if state.latch = value then state
  else
    { state with
      latch := value
      producer := state.producer.wake
      consumer := state.consumer.wake }

@[simp] theorem toggle_context (state : State α) (value : Bool)
    : (state.toggle value).context = state.context := by
  unfold State.toggle
  split <;> rfl

@[simp] theorem toggle_remaining (state : State α) (value : Bool)
    : (state.toggle value).remaining = state.remaining := by
  unfold State.toggle
  split <;> rfl

@[simp] theorem toggle_queue (state : State α) (value : Bool)
    : (state.toggle value).queue = state.queue := by
  unfold State.toggle
  split <;> rfl

@[simp] theorem toggle_latch (state : State α) (value : Bool)
    : (state.toggle value).latch = value := by
  unfold State.toggle
  split
  · assumption
  · rfl

@[simp] theorem toggle_received (state : State α) (value : Bool)
    : (state.toggle value).received = state.received := by
  unfold State.toggle
  split <;> rfl

/-- The top of the producer's loop: it waits if the queue is full and the latch is set. -/
def State.loopTop (state : State α) (size : Option Nat) : State α :=
  let full := size.any (fun size => size ≤ state.queue.length)
  { state with producer := if full && state.latch then .waitUnset false else .asking }

@[simp] theorem loopTop_ne_ended (state : State α) (size : Option Nat)
    : (state.loopTop size).producer ≠ .ended := by
  simp only [State.loopTop]
  split <;> simp

@[simp] theorem loopTop_ne_unstarted (state : State α) (size : Option Nat)
    : (state.loopTop size).producer ≠ .unstarted := by
  simp only [State.loopTop]
  split <;> simp

/-- `queue.append(item)` and `latch.set()`, and around the loop. -/
def State.produce (state : State α) (size : Option Nat) (item : α) (rest : List α) : State α :=
  let state := { state with remaining := rest, queue := state.queue ++ [item] }
  (state.toggle true).loopTop size

def State.endProducer (state : State α) (ended : FutureState Failure Unit) : State α :=
  { state with context := state.context.endBackground ended, producer := .ended }

/-- How the async generator ends with its context. -/
def Finish.ofExit : ContextExit Failure → Finish
  | .returned => .normal
  | .runtimeError _ | .raised (.exception .stopAsyncIteration) => .runtimeError
  | outcome => .raised outcome

/-- The generator leaves `contextualize()`, at once or through an `await`. -/
def State.leave (state : State α) (ending : Ending Failure) : State α :=
  let context := state.context.leaveBody Failure.stops ending
  let consumer :=
    match context.place with
    | .exited _ outcome => .finished (.ofExit outcome)
    | .body | .awaiting _ _ _ => .leaving
  { state with context, consumer }

/-- `queue.popleft()`, the unset of the latch at the last item, and the `yield`. -/
def State.pop (state : State α) : State α :=
  match state.queue with
  | [] => state.leave (.raised .indexError)
  | item :: rest =>
      let state := { state with queue := rest, consumer := .holding }
      let state := if rest.isEmpty then state.toggle false else state
      { state with received := state.received ++ [item] }

/-- The scope of the context has asked the consumer's task to cancel. -/
def State.scopeCancelled (state : State α) : Bool := 0 < state.context.scope.cancellationCount

/-- A request of `cancel_task()` has reached the producer. -/
def State.producerCancelled (state : State α) : Bool :=
  0 < state.context.guaranteed.parent.cancelling

/-- What can happen from the start of the generator on. The consumer is not cancelled by others.
-/
inductive Event where
  | producerStarts
  | sourceYields
  | sourceEnds
  | producerWakes
  /-- A `CancelledError` is thrown at the producer's `await`. -/
  | producerCancelled
  | callbackRuns
  | consumerWakes
  /-- A `CancelledError` is thrown into the generator, or into the consumer's own code. -/
  | consumerCancelled
  /-- The consumer's own code is over, and its loop asks the generator for another item. -/
  | consumerAsks
  | consumerResumes
deriving DecidableEq, Repr

def step (size : Option Nat) (state : State α) : Event → Option (State α)
  | .producerStarts =>
      match state.producer with
      | .unstarted =>
          (Contextualize.step Failure.stops state.context .firstStep).map (fun context =>
            let state := { state with context }
            if context.background.done then { state with producer := .ended }
            else state.loopTop size)
      | _ => none
  | .sourceYields =>
      match state.producer, state.remaining with
      | .asking, item :: rest => some (state.produce size item rest)
      | _, _ => none
  | .sourceEnds =>
      match state.producer, state.remaining with
      | .asking, [] => some (state.endProducer (.exception .stopAsyncIteration))
      | _, _ => none
  | .producerWakes =>
      match state.producer with
      | .waitUnset true =>
          if state.producerCancelled then none else some { state with producer := .asking }
      | _ => none
  | .producerCancelled =>
      match state.producer with
      | .waitUnset _ | .asking =>
          if state.producerCancelled then some (state.endProducer .cancelled) else none
      | _ => none
  | .callbackRuns =>
      (Contextualize.step Failure.stops state.context .callbackRuns).map (fun context =>
        { state with context })
  | .consumerWakes =>
      match state.consumer with
      | .waitSet true => if state.scopeCancelled then none else some state.pop
      | _ => none
  | .consumerCancelled =>
      if state.scopeCancelled then
        match state.consumer with
        | .waitSet _ => some (state.leave .cancelledError)
        | .holding => some { state with consumer := .finished .cancelledError }
        | _ => none
      else
        none
  | .consumerAsks =>
      match state.consumer with
      | .holding => if state.scopeCancelled then none else some (state.leave .returned)
      | _ => none
  | .consumerResumes =>
      match state.consumer with
      | .leaving =>
          (Contextualize.step Failure.stops state.context .resumes).map (fun context =>
            let consumer :=
              match context.place with
              | .exited _ outcome => .finished (.ofExit outcome)
              | .body | .awaiting _ _ _ => .leaving
            { state with context, consumer })
      | _ => none

end Aiodrive.BufferAiter
