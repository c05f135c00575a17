import Aiodrive.Transition.Outputs

/-! The life of an `asyncio.Task` as its clients see it: what its methods answer, what its
coroutine is resumed with, and what the future that it waits for is asked.
-/

namespace Aiodrive.TaskLife

variable {ε α : Type*}

/-- An exception on its way into or out of a coroutine. -/
inductive Thrown (ε : Type*) where
  | cancelledError (message : Option String)
  | exception (error : ε)
deriving DecidableEq, Repr

/-- How a coroutine ends. -/
inductive Ended (ε α : Type*) where
  | returned (value : α)
  | raised (thrown : Thrown ε)
deriving DecidableEq, Repr

/-- A future that a task waits for, and the requests that it has accepted from it. -/
structure Waiter (ε : Type*) where
  /-- A task decides what becomes of a request; any other future is cancelled at once. -/
  isTask : Bool
  asked : List (Option String)
  /-- What awaiting the future throws, if anything, once it is done. -/
  outcome : Option (Option (Thrown ε))
deriving DecidableEq, Repr

def Waiter.new (isTask : Bool) : Waiter ε := { isTask, asked := [], outcome := none }

/-- `waiter.cancel(message)`, with the returned flag. -/
def Waiter.cancel (waiter : Waiter ε) (message : Option String) : Waiter ε × Bool :=
  match waiter.outcome with
  | some _ => (waiter, false)
  | none =>
      let outcome := if waiter.isTask then none else some (some (.cancelledError message))
      ({ waiter with asked := waiter.asked ++ [message], outcome }, true)

/-- Where the coroutine of a task is. -/
inductive Phase (ε α : Type*) where
  | unstarted
  | running
  /-- After a bare `yield`: the next step is scheduled. -/
  | sleeping
  | waiting (waiter : Waiter ε)
  | done (ended : Ended ε α)
deriving DecidableEq, Repr

/-- An `asyncio.Task`. -/
structure State (ε α : Type*) where
  numCancelsRequested : Nat
  mustCancel : Bool
  cancelMessage : Option String
  phase : Phase ε α
deriving DecidableEq, Repr

/-- `Task(coroutine)` -/
def State.new : State ε α :=
  { numCancelsRequested := 0, mustCancel := false, cancelMessage := none, phase := .unstarted }

/-- `Task.cancelled()` -/
def State.cancelled (life : State ε α) : Bool :=
  match life.phase with
  | .done (.raised (.cancelledError _)) => true
  | _ => false

/-- `Task.done()` -/
def State.done (life : State ε α) : Bool :=
  match life.phase with
  | .done _ => true
  | _ => false

/-- How the task ended, if it has. -/
def State.ended? (life : State ε α) : Option (Ended ε α) :=
  match life.phase with
  | .done ended => some ended
  | _ => none

/-- A request that the coroutine is to find at its next step. -/
def State.remember (life : State ε α) (message : Option String) : State ε α :=
  { life with
    numCancelsRequested := life.numCancelsRequested + 1
    mustCancel := true
    cancelMessage := message }

/-- `Task.cancel(message)`, with the requests that are passed on and the returned flag. -/
def State.cancel (life : State ε α) (message : Option String)
    : State ε α × List (Option String) × Bool :=
  match life.phase with
  | .done _ => (life, [], false)
  | .waiting waiter =>
      match waiter.cancel message with
      | (waiter, true) =>
          let numCancelsRequested := life.numCancelsRequested + 1
          ({ life with numCancelsRequested, phase := .waiting waiter }, [message], true)
      | (_, false) => (life.remember message, [], true)
  | .unstarted | .running | .sleeping => (life.remember message, [], true)

/-- `Task.uncancel()`; from Python 3.13 on, `clears`, the request that is about to be delivered is
withdrawn with the last one.
-/
def State.uncancel (clears : Bool) (life : State ε α) : State ε α :=
  if life.numCancelsRequested > 0 then
    { life with
      numCancelsRequested := life.numCancelsRequested - 1
      mustCancel := life.mustCancel && !(clears && life.numCancelsRequested == 1) }
  else
    life

/-- What a step sends or throws into a coroutine: it starts it, sends it `None`, or throws a
`CancelledError` of the task or the exception of the future that it waited for.
-/
inductive Delivery (ε : Type*) where
  | started
  | sent
  | cancelled (message : Option String)
  | threw (thrown : Thrown ε)
deriving DecidableEq, Repr

/-- `Task.__step(exception)` of a coroutine that has been started. -/
def State.wakeup (life : State ε α) (exception : Option (Thrown ε))
    : State ε α × Delivery ε :=
  let delivery :=
    match exception with
    | some (.cancelledError message) => .threw (.cancelledError message)
    | some (.exception error) =>
        if life.mustCancel then .cancelled life.cancelMessage else .threw (.exception error)
    | none => if life.mustCancel then .cancelled life.cancelMessage else .sent
  ({ life with mustCancel := false, phase := .running }, delivery)

/-- The next step of the task. A coroutine that has not been started ends by an exception that is
thrown into it; with `defers`, its first step starts it and leaves the request for later.
-/
def State.resume (defers : Bool) (life : State ε α) : Option (State ε α × Delivery ε) :=
  match life.phase with
  | .unstarted =>
      if life.mustCancel && !defers then
        let phase := .done (.raised (.cancelledError life.cancelMessage))
        some ({ life with mustCancel := false, phase }, .cancelled life.cancelMessage)
      else
        some ({ life with phase := .running }, .started)
  | .sleeping => some (life.wakeup none)
  | .waiting waiter => waiter.outcome.map life.wakeup
  | .running | .done _ => none

/-- What a coroutine suspends on. -/
inductive Target where
  | bareYield
  | future (isTask : Bool)
deriving DecidableEq, Repr

/-- The coroutine suspends: a request that it has not met is passed on to what it waits for. -/
def State.suspend (life : State ε α) : Target → State ε α × List (Option String)
  | .bareYield => ({ life with phase := .sleeping }, [])
  | .future isTask =>
      if life.mustCancel then
        let (waiter, _) := (Waiter.new isTask).cancel life.cancelMessage
        ({ life with mustCancel := false, phase := .waiting waiter }, [life.cancelMessage])
      else
        ({ life with phase := .waiting (Waiter.new isTask) }, [])

/-- The coroutine ends: a task that returns with a request that it has not met is cancelled. -/
def State.finish (life : State ε α) : Ended ε α → State ε α × Ended ε α
  | .returned value =>
      if life.mustCancel then
        let ended := .raised (.cancelledError life.cancelMessage)
        ({ life with mustCancel := false, phase := .done ended }, ended)
      else
        ({ life with phase := .done (.returned value) }, .returned value)
  | .raised thrown => ({ life with phase := .done (.raised thrown) }, .raised thrown)

-----------------------------------------------------------------------------------------
-- Runs
-----------------------------------------------------------------------------------------

/-- What happens to a task: calls of its methods, by its coroutine or by others; steps; what the
coroutine does while it runs; and the end of the future that it waits for.
-/
inductive Event (ε α : Type*) where
  | cancel (message : Option String)
  | uncancel
  | cancelling
  | resume
  | suspend (target : Target)
  | finish (ended : Ended ε α)
  | waiterEnds (exception : Option (Thrown ε))
deriving DecidableEq, Repr

/-- What can be seen of a task. -/
inductive Output (ε α : Type*) where
  | cancelReturned (value : Bool)
  | uncancelReturned (count : Nat)
  | cancellingReturned (count : Nat)
  /-- The future that the task waits for accepts a request from it. -/
  | asked (message : Option String)
  | resumed (delivery : Delivery ε)
  | ended (ended : Ended ε α)
deriving DecidableEq, Repr

/-- The outputs by which a request on a task reaches its coroutine. -/
def Output.isCancellation : Output ε α → Bool
  | asked _ | resumed (.cancelled _) => true
  | _ => false

def Event.isCancel : Event ε α → Bool
  | cancel _ => true
  | _ => false

/-- The events that are calls of the task's methods. -/
def Event.isCall : Event ε α → Bool
  | cancel _ | uncancel | cancelling => true
  | resume | suspend _ | finish _ | waiterEnds _ => false

def step (clears defers : Bool) (life : State ε α)
    : Event ε α → Option (State ε α × List (Output ε α))
  | .cancel message =>
      let (life, asked, answer) := life.cancel message
      some (life, asked.map .asked ++ [.cancelReturned answer])
  | .uncancel =>
      let life := life.uncancel clears
      some (life, [.uncancelReturned life.numCancelsRequested])
  | .cancelling => some (life, [.cancellingReturned life.numCancelsRequested])
  | .resume =>
      (life.resume defers).map (fun (life, delivery) =>
        (life, .resumed delivery :: life.ended?.toList.map .ended))
  | .suspend target =>
      match life.phase with
      | .running =>
          let (life, asked) := life.suspend target
          some (life, asked.map .asked)
      | _ => none
  | .finish ended =>
      match life.phase with
      | .running =>
          let (life, ended) := life.finish ended
          some (life, [.ended ended])
      | _ => none
  | .waiterEnds exception =>
      match life.phase with
      | .waiting waiter =>
          if waiter.outcome.isSome then none
          else
            let waiter := { waiter with outcome := some exception }
            some ({ life with phase := .waiting waiter }, [])
      | _ => none

/-- A request on a task that is not done is counted. -/
theorem cancel_numCancelsRequested {life : State ε α} (pending : life.done = false)
    (message : Option String)
    : (life.cancel message).1.numCancelsRequested = life.numCancelsRequested + 1 := by
  unfold State.cancel
  split
  · simp_all [State.done]
  · split <;> rfl
  · rfl
  · rfl
  · rfl

theorem cancel_answer {life : State ε α} (pending : life.done = false)
    (message : Option String)
    : (life.cancel message).2.2 = true := by
  unfold State.cancel
  split
  · simp_all [State.done]
  · split <;> rfl
  · rfl
  · rfl
  · rfl

/-- A done task refuses a request. -/
theorem cancel_of_done {life : State ε α} (done : life.done = true) (message : Option String)
    : life.cancel message = (life, [], false) := by
  unfold State.done at done
  split at done
  · simp [State.cancel, *]
  · cases done

@[simp] theorem cancel_done (life : State ε α) (message : Option String)
    : (life.cancel message).1.done = life.done := by
  unfold State.cancel
  split
  · rfl
  · split <;> simp_all [State.done, State.remember]
  · rfl
  · rfl
  · rfl

/-- Only the first step leaves the first phase. -/
theorem cancel_unstarted {life : State ε α} {message : Option String}
    (unstarted : (life.cancel message).1.phase = .unstarted)
    : life.phase = .unstarted := by
  unfold State.cancel at unstarted
  split at unstarted
  · exact unstarted
  · split at unstarted <;> simp_all [State.remember]
  · assumption
  · exact unstarted
  · exact unstarted

@[simp] theorem uncancel_phase (clears : Bool) (life : State ε α)
    : (life.uncancel clears).phase = life.phase := by
  unfold State.uncancel
  split <;> rfl

@[simp] theorem uncancel_numCancelsRequested (clears : Bool) (life : State ε α)
    : (life.uncancel clears).numCancelsRequested = life.numCancelsRequested - 1 := by
  unfold State.uncancel
  split
  · rfl
  · omega

/-- What a task does by itself: it is not done before, and keeps the count of its requests. -/
structure Advances (life next : State ε α) (outputs : List (Output ε α)) : Prop where
  pending : life.done = false
  count : next.numCancelsRequested = life.numCancelsRequested
  started
    : life.phase ≠ .unstarted → next.phase ≠ .unstarted ∧ .resumed .started ∉ outputs

/-- A step after the first goes on with the coroutine, which it does not start again. -/
theorem resume_started {defers : Bool} {life next : State ε α} {delivery : Delivery ε}
    (resumed : life.resume defers = some (next, delivery)) (started : life.phase ≠ .unstarted)
    : (∃ exception, (next, delivery) = life.wakeup exception) ∧ life.done = false := by
  unfold State.resume at resumed
  split at resumed
  · exact absurd ‹_› started
  · exact ⟨⟨none, (Option.some.inj resumed).symm⟩, by simp_all [State.done]⟩
  · obtain ⟨exception, -, same⟩ := Option.map_eq_some_iff.mp resumed
    exact ⟨⟨exception, same.symm⟩, by simp_all [State.done]⟩
  · cases resumed
  · cases resumed

/-- Whether a request is deferred matters in the first step only. -/
theorem step_defers {clears : Bool} {life : State ε α} (started : life.phase ≠ .unstarted)
    (event : Event ε α)
    : step clears true life event = step clears false life event := by
  cases event with
  | resume =>
      simp only [step, State.resume]
      split <;> trivial
  | cancel message => rfl
  | uncancel => rfl
  | cancelling => rfl
  | suspend target => rfl
  | finish ended => rfl
  | waiterEnds exception => rfl

@[simp] theorem wakeup_phase (life : State ε α) (exception : Option (Thrown ε))
    : (life.wakeup exception).1.phase = .running :=
  rfl

theorem wakeup_delivery (life : State ε α) (exception : Option (Thrown ε))
    : (life.wakeup exception).2 ≠ .started := by
  simp only [State.wakeup]
  split
  · simp
  · split <;> simp
  · split <;> simp

theorem resume_advances {defers : Bool} {life next : State ε α} {delivery : Delivery ε}
    (resumed : life.resume defers = some (next, delivery))
    : Advances life next (.resumed delivery :: next.ended?.toList.map .ended) := by
  by_cases unstarted : life.phase = .unstarted
  · simp only [State.resume, unstarted] at resumed
    refine ⟨by simp [State.done, unstarted], ?_, fun started => absurd unstarted started⟩
    split at resumed <;> exact (Prod.mk.inj (Option.some.inj resumed)).1 ▸ rfl
  · obtain ⟨⟨exception, same⟩, pending⟩ := resume_started resumed unstarted
    obtain rfl : next = (life.wakeup exception).1 := congrArg Prod.fst same
    obtain rfl : delivery = (life.wakeup exception).2 := congrArg Prod.snd same
    refine ⟨pending, rfl, fun _ => ⟨by simp, ?_⟩⟩
    have other := wakeup_delivery life exception
    simp only [List.mem_cons, Output.resumed.injEq, List.mem_map, reduceCtorEq, and_false,
      exists_false, or_false]
    exact other.symm

/-- What a task does by itself, one constructor for each kind of event. -/
inductive OwnStep (defers : Bool) (life : State ε α) : State ε α → List (Output ε α) → Prop where
  | resumes {next : State ε α} {delivery : Delivery ε}
    (resumed : life.resume defers = some (next, delivery))
    : OwnStep defers life next (.resumed delivery :: next.ended?.toList.map .ended)
  | suspends (target : Target) (running : life.phase = .running)
    : OwnStep defers life (life.suspend target).1 ((life.suspend target).2.map .asked)
  | finishes (ended : Ended ε α) (running : life.phase = .running)
    : OwnStep defers life (life.finish ended).1 [.ended (life.finish ended).2]
  | learns {waiter : Waiter ε} (exception : Option (Thrown ε))
    (waiting : life.phase = .waiting waiter)
    : OwnStep defers life
        { life with phase := .waiting { waiter with outcome := some exception } } []

/-- Every event that is not a call is a step of the task by itself. -/
theorem ownStep_of_step {clears defers : Bool} {life next : State ε α} {event : Event ε α}
    {outputs : List (Output ε α)} (own : event.isCall = false)
    (stepped : step clears defers life event = some (next, outputs))
    : OwnStep defers life next outputs := by
  cases event with
  | cancel message => cases own
  | uncancel => cases own
  | cancelling => cases own
  | resume =>
      obtain ⟨⟨after, delivery⟩, resumed, same⟩ := Option.map_eq_some_iff.mp stepped
      obtain ⟨rfl, rfl⟩ := Prod.mk.inj same
      exact .resumes resumed
  | suspend target =>
      simp only [step] at stepped
      split at stepped
      · rename_i running
        obtain ⟨rfl, rfl⟩ := Prod.mk.inj (Option.some.inj stepped)
        exact .suspends target running
      · cases stepped
  | finish ended =>
      simp only [step] at stepped
      split at stepped
      · rename_i running
        obtain ⟨rfl, rfl⟩ := Prod.mk.inj (Option.some.inj stepped)
        exact .finishes ended running
      · cases stepped
  | waiterEnds exception =>
      simp only [step] at stepped
      split at stepped
      · rename_i waiting
        split at stepped
        · cases stepped
        · obtain ⟨rfl, rfl⟩ := Prod.mk.inj (Option.some.inj stepped)
          exact .learns exception waiting
      · cases stepped

theorem step_advances {clears defers : Bool} {life next : State ε α} {event : Event ε α}
    {outputs : List (Output ε α)} (own : event.isCall = false)
    (stepped : step clears defers life event = some (next, outputs))
    : Advances life next outputs := by
  cases ownStep_of_step own stepped with
  | resumes resumed => exact resume_advances resumed
  | suspends target running =>
      refine ⟨by simp [State.done, running], ?_, fun _ => ⟨?_, ?_⟩⟩
      all_goals
        cases target with
        | bareYield => simp [State.suspend]
        | future isTask =>
            simp only [State.suspend]
            split <;> simp
  | finishes ended running =>
      refine ⟨by simp [State.done, running], ?_, fun _ => ⟨?_, by simp⟩⟩
      all_goals
        cases ended with
        | returned value =>
            simp only [State.finish]
            split <;> simp
        | raised thrown => simp [State.finish]
  | learns exception waiting =>
      exact ⟨by simp [State.done, waiting], rfl, fun _ => ⟨by simp, by simp⟩⟩

-----------------------------------------------------------------------------------------
-- Tasks that nobody cancels
-----------------------------------------------------------------------------------------

/-- No request is on its way to the coroutine. -/
structure Calm (life : State ε α) : Prop where
  mustCancel : life.mustCancel = false
  asked : ∀ waiter, life.phase = .waiting waiter → waiter.asked = []

theorem Calm.uncancel {life : State ε α} (calm : Calm life) (clears : Bool)
    : Calm (life.uncancel clears) := by
  refine ⟨?_, by simpa using calm.asked⟩
  unfold State.uncancel
  split <;> simp [calm.mustCancel]

theorem Calm.resume {defers : Bool} {life next : State ε α} {delivery : Delivery ε}
    (calm : Calm life) (resumed : life.resume defers = some (next, delivery))
    : Calm next
      ∧ ∀ output ∈ (.resumed delivery :: next.ended?.toList.map .ended : List (Output ε α)),
          output.isCancellation = false := by
  have wakeupCalm (exception : Option (Thrown ε)) (same : (next, delivery) = life.wakeup exception)
      : Calm next
        ∧ ∀ output ∈ (.resumed delivery :: next.ended?.toList.map .ended : List (Output ε α)),
            output.isCancellation = false := by
    obtain rfl : next = (life.wakeup exception).1 := congrArg Prod.fst same
    obtain rfl : delivery = (life.wakeup exception).2 := congrArg Prod.snd same
    refine ⟨⟨rfl, by simp⟩, ?_⟩
    cases exception with
    | none => simp [State.wakeup, State.ended?, calm.mustCancel, Output.isCancellation]
    | some thrown =>
        cases thrown <;>
          simp [State.wakeup, State.ended?, calm.mustCancel, Output.isCancellation]
  by_cases unstarted : life.phase = .unstarted
  · simp only [State.resume, unstarted, calm.mustCancel, Bool.false_and, Bool.false_eq_true,
      if_false, Option.some.injEq, Prod.mk.injEq] at resumed
    obtain ⟨rfl, rfl⟩ := resumed
    exact ⟨⟨rfl, by simp⟩, by simp [State.ended?, Output.isCancellation]⟩
  · obtain ⟨⟨exception, same⟩, -⟩ := resume_started resumed unstarted
    exact wakeupCalm exception same

/-- What a task does by itself cancels nothing unless a request is on its way. -/
theorem Calm.step_own {clears defers : Bool} {life next : State ε α} {event : Event ε α}
    {outputs : List (Output ε α)} (calm : Calm life) (own : event.isCall = false)
    (stepped : step clears defers life event = some (next, outputs))
    : Calm next ∧ ∀ output ∈ outputs, output.isCancellation = false := by
  have none := calm.mustCancel
  cases ownStep_of_step own stepped with
  | resumes resumed => exact calm.resume resumed
  | suspends target running =>
      cases target with
      | bareYield => exact ⟨⟨none, by simp [State.suspend]⟩, by simp [State.suspend]⟩
      | future isTask =>
          simp only [State.suspend, none, Bool.false_eq_true, if_false]
          exact ⟨⟨rfl, by simp [Waiter.new]⟩, by simp⟩
  | finishes ended running =>
      cases ended with
      | returned value =>
          simp only [State.finish, none, Bool.false_eq_true, if_false]
          exact ⟨⟨rfl, by simp⟩, by simp [Output.isCancellation]⟩
      | raised thrown =>
          exact ⟨⟨none, by simp [State.finish]⟩, by simp [Output.isCancellation]⟩
  | @learns waiter exception waiting =>
      exact ⟨⟨none, by simpa using calm.asked waiter waiting⟩, by simp⟩

end Aiodrive.TaskLife
