import Aiodrive.Asyncio.Wait
import Aiodrive.Transition.Runs

/-! The ready queue of the event loop around one caller that creates tasks and waits for them.
The queue is first in, first out; the first step of a new task is put in it, and so is the step
in which a suspended caller resumes.
-/

namespace Aiodrive.ReadyQueue

variable {σ κ τ : Type*}

/-- What an event of the caller's own steps is to the event loop: the end of a task, the
resumption from a wait, or a step that the caller takes outside a wait.
-/
inductive Effect (τ : Type*) where
  | complete (task : τ)
  | resumed (result : WaitResume)
  | acted
deriving DecidableEq, Repr

/-- The code that runs in the caller, as a machine with states `σ` and events `κ`. -/
structure Program (σ κ τ : Type*) where
  step : σ → κ → Option σ
  effect : κ → Effect τ
  /-- The code is suspended in a wait. -/
  suspended : σ → Bool
  /-- The condition of that wait holds. -/
  ready : σ → Bool
  requests : σ → List (CancelRequest τ)

/-- What the event loop relies on. A task that ends is no step of the code; a code that is
suspended can resume from a wait that is ready, and from a cancellation at any time.
-/
structure Program.Lawful (program : Program σ κ τ) : Prop where
  complete_keeps
    : ∀ {state next event task},
        program.effect event = .complete task
        → program.step state event = some next
        → program.requests next = program.requests state
          ∧ program.suspended next = program.suspended state
          ∧ (program.ready state = true → program.ready next = true)
  cancelled_enabled
    : ∀ {state} message,
        program.suspended state = true
        → ∃ event next,
            program.effect event = .resumed (.cancelledError message)
            ∧ program.step state event = some next
  returned_enabled
    : ∀ {state},
        program.suspended state = true
        → program.ready state = true
        → ∃ event next,
            program.effect event = .resumed .returned ∧ program.step state event = some next

/-- Code whose waits are calls of `asyncio.wait()` on some of its tasks. -/
def Program.ofWaits {ε α : Type*} (step : σ → κ → Option σ) (effect : κ → Effect τ)
    (wait : σ → Option (List τ × ReturnWhen)) (table : σ → TaskTable τ ε α)
    (requests : σ → List (CancelRequest τ))
    : Program σ κ τ where
  step
  effect
  suspended state := (wait state).isSome
  ready state := (wait state).any (fun (tasks, returnWhen) =>
    waitReady tasks (table state) returnWhen)
  requests

/-- Such code is as the event loop relies on if a task that ends is only recorded, and its waits
resume as those of `asyncio.wait()` do.
-/
theorem Program.lawful_ofWaits {ε α : Type*} [DecidableEq τ] {step : σ → κ → Option σ}
    {effect : κ → Effect τ} {wait : σ → Option (List τ × ReturnWhen)}
    {table : σ → TaskTable τ ε α} {requests : σ → List (CancelRequest τ)}
    (records
      : ∀ {state next event task},
          effect event = .complete task
          → step state event = some next
          → requests next = requests state
            ∧ wait next = wait state
            ∧ ∃ ended, complete (table state) task ended = some (table next))
    (cancels
      : ∀ {state waited} message,
          wait state = some waited
          → ∃ event next,
              effect event = .resumed (.cancelledError message) ∧ step state event = some next)
    (returns
      : ∀ {state tasks returnWhen},
          wait state = some (tasks, returnWhen)
          → waitReady tasks (table state) returnWhen = true
          → ∃ event next, effect event = .resumed .returned ∧ step state event = some next)
    : (Program.ofWaits step effect wait table requests).Lawful := by
  refine ⟨?_, ?_, ?_⟩
  · intro state next event task ended stepped
    obtain ⟨same, waits, final, completed⟩ := records ended stepped
    refine ⟨same, congrArg Option.isSome waits, fun ready => ?_⟩
    obtain ⟨⟨tasks, returnWhen⟩, waited, held⟩ := (Option.any_eq_true _ _).mp ready
    exact (Option.any_eq_true _ _).mpr
      ⟨(tasks, returnWhen), waits.trans waited, waitReady_of_complete completed held⟩
  · intro state message suspended
    obtain ⟨waited, found⟩ := Option.isSome_iff_exists.mp suspended
    exact cancels message found
  · intro state _ ready
    obtain ⟨⟨tasks, returnWhen⟩, waited, held⟩ := (Option.any_eq_true _ _).mp ready
    exact returns waited held

/-- A callback in the ready queue: the first step of a task, the resumption of the caller, or
one that is neither.
-/
inductive Handle (τ : Type*) where
  | firstStep (task : τ)
  | wakeup
  | other
deriving DecidableEq, Repr

/-- The future that a suspended caller waits for. -/
inductive Waiter where
  | pending
  | resolved
  | cancelled (message : Option String)
deriving DecidableEq, Repr

/-- The ready queue, what the caller waits for if it is suspended, a cancellation of it that
came too late for that, the tasks whose coroutine has run its first step, once for each time,
and the state of the caller's code.
-/
structure State (σ τ : Type*) where
  ready : List (Handle τ)
  waiter : Option Waiter
  mustCancel : Option (Option String)
  started : List τ
  caller : σ

/-- What can happen: the first handle of the queue is run, which is the resumption of the caller
in `resume`; the caller takes a step outside a wait; a task ends; the condition of a wait resolves
its future; the caller is cancelled; a callback is added. A cancellation can be pending when
a step of the caller ends in a wait.
-/
inductive Event (κ : Type*) where
  | run
  | resume (event : κ)
  | act (event : κ) (pendingCancel : Option (Option String))
  | complete (event : κ)
  | resolve
  | cancelCaller (message : Option String)
  | callSoon
deriving DecidableEq, Repr

/-- The events that run the first handle of the queue. -/
def Event.runsHandle : Event κ → Bool
  | .run | .resume _ => true
  | .act _ _ | .complete _ | .resolve | .cancelCaller _ | .callSoon => false

/-- What the caller's wait resumes with, once its future is done. A cancellation that came after
that takes the place of a result.
-/
def State.delivery (state : State σ τ) : Option WaitResume :=
  match state.waiter, state.mustCancel with
  | some (.cancelled message), _ => some (.cancelledError message)
  | some .resolved, some message => some (.cancelledError message)
  | some .resolved, none => some .returned
  | some .pending, _ | none, _ => none

/-- The end of a step of the caller. A pending cancellation cancels the future that the caller
suspends on, which puts the caller back into the queue.
-/
def State.suspend (program : Program σ κ τ) (ready : List (Handle τ)) (started : List τ)
    (caller : σ) (pendingCancel : Option (Option String))
    : State σ τ :=
  match program.suspended caller, pendingCancel with
  | false, _ => { ready, waiter := none, mustCancel := none, started, caller }
  | true, none => { ready, waiter := some .pending, mustCancel := none, started, caller }
  | true, some message =>
      { ready := ready ++ [.wakeup]
        waiter := some (.cancelled message)
        mustCancel := none
        started
        caller }

/-- The end of the step in which the caller created `tasks`, with `waiting` other callbacks in
the queue before them.
-/
def State.initial (program : Program σ κ τ) (waiting : Nat) (tasks : List τ) (caller : σ)
    (pendingCancel : Option (Option String))
    : State σ τ :=
  .suspend program (.replicate waiting .other ++ tasks.map .firstStep) [] caller pendingCancel

variable [DecidableEq τ]

/-- A task that was asked to cancel before its first step never runs its coroutine. -/
def step (program : Program σ κ τ) (state : State σ τ) : Event κ → Option (State σ τ)
  | .run =>
      match state.ready with
      | .firstStep task :: ready =>
          if (program.requests state.caller).any (fun request => request.task = task) then
            some { state with ready }
          else
            some { state with ready, started := state.started ++ [task] }
      | .other :: ready => some { state with ready }
      | .wakeup :: _ | [] => none
  | .resume event =>
      match state.ready, state.delivery with
      | .wakeup :: ready, some result =>
          if program.effect event = .resumed result then
            (program.step state.caller event).map (fun caller =>
              .suspend program ready state.started caller none)
          else
            none
      | _, _ => none
  | .act event pendingCancel =>
      if state.waiter = none ∧ program.effect event = .acted then
        (program.step state.caller event).map (fun caller =>
          .suspend program state.ready state.started caller pendingCancel)
      else
        none
  | .complete event =>
      match program.effect event with
      | .complete task =>
          if .firstStep task ∈ state.ready then none
          else (program.step state.caller event).map (fun caller => { state with caller })
      | .resumed _ | .acted => none
  | .resolve =>
      if state.waiter = some .pending ∧ program.ready state.caller then
        some { state with ready := state.ready ++ [.wakeup], waiter := some .resolved }
      else
        none
  | .cancelCaller message =>
      match state.waiter with
      | some .pending =>
          some { state with
            ready := state.ready ++ [.wakeup]
            waiter := some (.cancelled message) }
      | some .resolved | some (.cancelled _) => some { state with mustCancel := some message }
      | none => none
  | .callSoon => some { state with ready := state.ready ++ [.other] }

/-- What each step of the event loop can do. -/
inductive Move (program : Program σ κ τ) (state : State σ τ) : Event κ → State σ τ → Prop where
  | starts {task : τ} {ready : List (Handle τ)} (head : state.ready = .firstStep task :: ready)
    : Move program state .run { state with ready, started := state.started ++ [task] }
  | skips {task : τ} {ready : List (Handle τ)} (head : state.ready = .firstStep task :: ready)
    (requested : ∃ request ∈ program.requests state.caller, request.task = task)
    : Move program state .run { state with ready }
  | runsOther {ready : List (Handle τ)} (head : state.ready = .other :: ready)
    : Move program state .run { state with ready }
  | resumes {event : κ} {ready : List (Handle τ)} {result : WaitResume} {caller : σ}
    (head : state.ready = .wakeup :: ready) (delivered : state.delivery = some result)
    (stepped : program.step state.caller event = some caller)
    : Move program state (.resume event) (.suspend program ready state.started caller none)
  | acts {event : κ} {pendingCancel : Option (Option String)} {caller : σ}
    (outside : state.waiter = none) (stepped : program.step state.caller event = some caller)
    : Move program state (.act event pendingCancel)
        (.suspend program state.ready state.started caller pendingCancel)
  | completes {event : κ} {task : τ} {caller : σ} (ended : program.effect event = .complete task)
    (stepped : program.step state.caller event = some caller)
    : Move program state (.complete event) { state with caller }
  | resolves (pending : state.waiter = some .pending)
    (holds : program.ready state.caller = true)
    : Move program state .resolve
        { state with ready := state.ready ++ [.wakeup], waiter := some .resolved }
  | cancelsWait {message : Option String} (pending : state.waiter = some .pending)
    : Move program state (.cancelCaller message)
        { state with ready := state.ready ++ [.wakeup], waiter := some (.cancelled message) }
  | cancelsLate {message : Option String} {waiter : Waiter}
    (waits : state.waiter = some waiter) (done : waiter ≠ .pending)
    : Move program state (.cancelCaller message) { state with mustCancel := some message }
  | adds : Move program state .callSoon { state with ready := state.ready ++ [.other] }

/-- Every step is one of the moves. -/
theorem move_of_step {program : Program σ κ τ} {state next : State σ τ} {event : Event κ}
    (stepped : step program state event = some next)
    : Move program state event next := by
  cases event with
  | run =>
      simp only [step] at stepped
      split at stepped
      · rename_i task ready head
        split at stepped
        · rename_i requested
          have request := List.any_eq_true.mp requested
          simp only [decide_eq_true_eq] at request
          exact Option.some.inj stepped ▸ .skips head request
        · exact Option.some.inj stepped ▸ .starts head
      · rename_i ready head
        exact Option.some.inj stepped ▸ .runsOther head
      · contradiction
      · contradiction
  | resume event =>
      simp only [step] at stepped
      split at stepped
      · rename_i ready result head delivered
        simp only [Option.ite_none_right_eq_some] at stepped
        obtain ⟨caller, resumed, rfl⟩ := Option.map_eq_some_iff.mp stepped.2
        exact .resumes head delivered resumed
      · contradiction
  | act event pendingCancel =>
      simp only [step, Option.ite_none_right_eq_some] at stepped
      obtain ⟨⟨outside, _⟩, taken⟩ := stepped
      obtain ⟨caller, acted, rfl⟩ := Option.map_eq_some_iff.mp taken
      exact .acts outside acted
  | complete event =>
      simp only [step] at stepped
      split at stepped
      · rename_i task ended
        simp only [Option.ite_none_left_eq_some] at stepped
        obtain ⟨caller, completed, rfl⟩ := Option.map_eq_some_iff.mp stepped.2
        exact .completes ended completed
      · contradiction
      · contradiction
  | resolve =>
      simp only [step, Option.ite_none_right_eq_some] at stepped
      obtain ⟨⟨pending, holds⟩, same⟩ := stepped
      exact Option.some.inj same ▸ .resolves pending holds
  | cancelCaller message =>
      simp only [step] at stepped
      split at stepped
      · rename_i pending
        exact Option.some.inj stepped ▸ .cancelsWait pending
      · rename_i resolved
        exact Option.some.inj stepped ▸ .cancelsLate resolved (by simp)
      · rename_i cancelled
        exact Option.some.inj stepped ▸ .cancelsLate cancelled (by simp)
      · contradiction
  | callSoon => exact Option.some.inj stepped ▸ .adds

end Aiodrive.ReadyQueue
