import Aiodrive.Cancellation.GuaranteedLife

/-! A `PendingDaemonHandle` of `modules/handle.py`, made by `using_pending_daemon_handle()`,
from the moment on at which its generator has yielded the value: the daemon task around
`second_call()`, and the code that closes it.
-/

namespace Aiodrive.PendingDaemon

open TaskLife (Delivery Ended Target Thrown)

variable {ε : Type*}

/-- An exception of the generator, or a `RuntimeError` of `second_call()`. -/
inductive Error (ε : Type*) where
  | own (error : ε)
  | runtimeError (text : String)
deriving DecidableEq, Repr

/-- How the handle is used: as a context manager, which runs the daemon through `contextualize()`;
or with `start()` and the `aclose()` of the `DaemonHandle` that it returns.
-/
inductive Way where
  | contextManager
  | closing
deriving DecidableEq, Repr

/-- The task that awaits `second_call()`: `contextualize()` creates a `GuaranteedTask`, and
`DaemonHandle` a plain one.
-/
inductive DaemonTask (ε : Type*) where
  | guaranteed (task : GuaranteedLife.State (Error ε) Empty)
  | plain (task : TaskLife.State (Error ε) Empty)
deriving DecidableEq, Repr

namespace DaemonTask

def new : Way → DaemonTask ε
  | .contextManager => .guaranteed .new
  | .closing => .plain .new

def way : DaemonTask ε → Way
  | guaranteed _ => .contextManager
  | plain _ => .closing

/-- What the task is to its base class. -/
def life : DaemonTask ε → TaskLife.State (Error ε) Empty
  | guaranteed task => task.parent
  | plain task => task

def withLife (life : TaskLife.State (Error ε) Empty) : DaemonTask ε → DaemonTask ε
  | guaranteed task => .guaranteed { task with parent := life }
  | plain _ => .plain life

/-- `task.cancel(message)` -/
def cancel (message : Option String) : DaemonTask ε → DaemonTask ε
  | guaranteed task => .guaranteed (task.cancel message).1
  | plain task => .plain (task.cancel message).1

/-- The next step of the task. -/
def resume : DaemonTask ε → Option (DaemonTask ε × Delivery (Error ε))
  | guaranteed task => task.resume.map (fun (task, delivery) => (.guaranteed task, delivery))
  | plain task => (task.resume false).map (fun (task, delivery) => (.plain task, delivery))

/-- The coroutine of the task suspends. -/
def suspend (target : Target) (task : DaemonTask ε) : DaemonTask ε :=
  task.withLife (task.life.suspend target).1

/-- The coroutine of the task ends. -/
def finish (ended : Ended (Error ε) Empty) (task : DaemonTask ε) : DaemonTask ε :=
  task.withLife (task.life.finish ended).1

def done (task : DaemonTask ε) : Bool := task.life.done

def running (task : DaemonTask ε) : Bool :=
  match task.life.phase with
  | .running => true
  | .unstarted | .sleeping | .waiting _ | .done _ => false

end DaemonTask

/-- Where `second_call()` is: not started, or waiting for the future that nobody resolves; at
`await anext(generator)`, with the message of the `CancelledError` that it has caught, or at
`await generator.aclose()`; or at its end.
-/
inductive SecondCall where
  | unstarted
  | waiting
  | finalising (message : Option String)
  | closingGenerator
  | ended
deriving DecidableEq, Repr

/-- Where the closing of the handle is: not begun, at `await task` in `cancel_task()`, or over. -/
inductive Closer where
  | inside
  | awaiting
  | closed
deriving DecidableEq, Repr

structure State (ε : Type*) where
  task : DaemonTask ε
  coroutine : SecondCall
  /-- How often the generator has been resumed at its `yield`. -/
  resumed : Nat
  closer : Closer
deriving DecidableEq, Repr

/-- What can happen: anyone asks the task to cancel, as the closing code does when it is cancelled
itself; the task takes a step; the generator, resumed at its `yield`, suspends, yields once more, or
ends; the future that it waits for ends; and the closing goes on.
-/
inductive Event (ε : Type*) where
  | cancel (message : Option String)
  | resumes
  | generatorSuspends (target : Target)
  | waiterEnds (exception : Option (Thrown (Error ε)))
  | generatorYields
  | generatorEnds (thrown : Option (Thrown (Error ε)))
  | closes
  | closerResumes
deriving DecidableEq, Repr

/-- The handle at the moment at which its value has been obtained. -/
def State.initial (way : Way) : State ε :=
  { task := .new way, coroutine := .unstarted, resumed := 0, closer := .inside }

/-- `second_call()` ends. -/
def State.finish (state : State ε) (ended : Ended (Error ε) Empty) : State ε :=
  { state with task := state.task.finish ended, coroutine := .ended }

/-- What `second_call()` makes of a step of its task. -/
def State.deliver (state : State ε) (delivery : Delivery (Error ε)) : State ε :=
  match state.coroutine with
  | .unstarted =>
      match delivery with
      | .started =>
          { state with task := state.task.suspend (.future false), coroutine := .waiting }
      -- A coroutine that has not been started does not run
      | .sent | .cancelled _ | .threw _ => { state with coroutine := .ended }
  | .waiting =>
      match delivery with
      | .cancelled message | .threw (.cancelledError message) =>
          { state with coroutine := .finalising message, resumed := state.resumed + 1 }
      | .threw (.exception error) => state.finish (.raised (.exception error))
      | .started | .sent =>
          state.finish (.raised (.exception (.runtimeError "Unreachable")))
  -- The generator is resumed
  | .finalising _ | .closingGenerator => state
  | .ended => state

/-- The end of the generator, or of its `aclose()`. -/
def State.endGenerator (state : State ε) (thrown : Option (Thrown (Error ε)))
    : Option (State ε) :=
  match state.coroutine with
  | .finalising message => some (state.finish (.raised (thrown.getD (.cancelledError message))))
  | .closingGenerator =>
      let error := .exception (.runtimeError "Generator did not stop")
      some (state.finish (.raised (thrown.getD error)))
  | .unstarted | .waiting | .ended => none

/-- The generator runs: it has been resumed at its `yield`. -/
def State.generatorRuns (state : State ε) : Bool :=
  match state.coroutine with
  | .finalising _ | .closingGenerator => state.task.running
  | .unstarted | .waiting | .ended => false

def step (state : State ε) : Event ε → Option (State ε)
  | .cancel message => some { state with task := state.task.cancel message }
  | .resumes =>
      state.task.resume.map (fun (task, delivery) => { state with task }.deliver delivery)
  | .generatorSuspends target =>
      if state.generatorRuns then some { state with task := state.task.suspend target } else none
  | .waiterEnds exception =>
      match state.coroutine with
      | .finalising _ | .closingGenerator =>
          (TaskLife.step true false state.task.life (.waiterEnds exception)).map (fun (life, _) =>
            { state with task := state.task.withLife life })
      -- Nobody but its task has the future of `second_call()`
      | .unstarted | .waiting | .ended => none
  | .generatorYields =>
      match state.coroutine with
      | .finalising _ =>
          if state.task.running then some { state with coroutine := .closingGenerator } else none
      | .unstarted | .waiting | .closingGenerator | .ended => none
  | .generatorEnds thrown => if state.generatorRuns then state.endGenerator thrown else none
  | .closes =>
      match state.closer with
      | .inside =>
          if state.task.done then some { state with closer := .closed }
          else some { state with task := state.task.cancel none, closer := .awaiting }
      | .awaiting | .closed => none
  | .closerResumes =>
      match state.closer with
      | .awaiting => if state.task.done then some { state with closer := .closed } else none
      | .inside | .closed => none

-----------------------------------------------------------------------------------------
-- The moves of a handle
-----------------------------------------------------------------------------------------

/-- The steps of a handle, one constructor for each branch. -/
inductive Move (state : State ε) : Event ε → State ε → Prop where
  | asks {message : Option String}
    : Move state (.cancel message) { state with task := state.task.cancel message }
  | resumes {task : DaemonTask ε} {delivery : Delivery (Error ε)}
    (resumed : state.task.resume = some (task, delivery))
    : Move state .resumes ({ state with task }.deliver delivery)
  | suspends {target : Target} (runs : state.generatorRuns = true)
    : Move state (.generatorSuspends target) { state with task := state.task.suspend target }
  | waited {exception : Option (Thrown (Error ε))} {waiter : TaskLife.Waiter (Error ε)}
    (inGenerator : state.coroutine ≠ .unstarted ∧ state.coroutine ≠ .waiting)
    (unended : state.coroutine ≠ .ended)
    : Move state (.waiterEnds exception)
        { state with
          task := state.task.withLife { state.task.life with phase := .waiting waiter } }
  | yields {message : Option String} (here : state.coroutine = .finalising message)
    : Move state .generatorYields { state with coroutine := .closingGenerator }
  | ends {thrown : Option (Thrown (Error ε))} {ended : Ended (Error ε) Empty}
    (runs : state.generatorRuns = true)
    (raised : ∃ own, ended = .raised own)
    : Move state (.generatorEnds thrown) (state.finish ended)
  | closesDone (here : state.closer = .inside) (done : state.task.done = true)
    : Move state .closes { state with closer := .closed }
  | closes (here : state.closer = .inside) (pending : state.task.done = false)
    : Move state .closes { state with task := state.task.cancel none, closer := .awaiting }
  | closed (here : state.closer = .awaiting) (done : state.task.done = true)
    : Move state .closerResumes { state with closer := .closed }

/-- Every step is one of the moves. -/
theorem move_of_step {state next : State ε} {event : Event ε}
    (stepped : step state event = some next)
    : Move state event next := by
  cases event with
  | cancel message => exact Option.some.inj stepped ▸ .asks
  | resumes =>
      obtain ⟨⟨task, delivery⟩, resumed, rfl⟩ := Option.map_eq_some_iff.mp stepped
      exact .resumes resumed
  | generatorSuspends target =>
      obtain ⟨runs, same⟩ := Option.ite_none_right_eq_some.mp stepped
      exact Option.some.inj same ▸ .suspends runs
  | waiterEnds exception =>
      have moved (inGenerator : state.coroutine ≠ .unstarted ∧ state.coroutine ≠ .waiting)
          (unended : state.coroutine ≠ .ended)
          (ended
            : (TaskLife.step true false state.task.life (.waiterEnds exception)).map
                (fun (life, _) => { state with task := state.task.withLife life })
              = some next)
          : Move state (.waiterEnds exception) next := by
        obtain ⟨⟨life, outputs⟩, changed, rfl⟩ := Option.map_eq_some_iff.mp ended
        simp only [TaskLife.step] at changed
        split at changed
        · obtain ⟨-, same⟩ := Option.ite_none_left_eq_some.mp changed
          obtain ⟨rfl, -⟩ := Prod.mk.inj (Option.some.inj same)
          exact .waited inGenerator unended
        · cases changed
      simp only [step] at stepped
      split at stepped
      · rename_i here
        exact moved (by simp [here]) (by simp [here]) stepped
      · rename_i here
        exact moved (by simp [here]) (by simp [here]) stepped
      all_goals cases stepped
  | generatorYields =>
      simp only [step] at stepped
      split at stepped
      · rename_i here
        obtain ⟨-, same⟩ := Option.ite_none_right_eq_some.mp stepped
        exact Option.some.inj same ▸ .yields here
      all_goals cases stepped
  | generatorEnds thrown =>
      obtain ⟨runs, ended⟩ := Option.ite_none_right_eq_some.mp stepped
      unfold State.endGenerator at ended
      split at ended
      · exact Option.some.inj ended ▸ .ends runs ⟨_, rfl⟩
      · exact Option.some.inj ended ▸ .ends runs ⟨_, rfl⟩
      all_goals cases ended
  | closes =>
      simp only [step] at stepped
      split at stepped
      · rename_i here
        split at stepped
        · rename_i done
          exact Option.some.inj stepped ▸ .closesDone here done
        · rename_i pending
          exact Option.some.inj stepped ▸ .closes here (by simpa using pending)
      all_goals cases stepped
  | closerResumes =>
      simp only [step] at stepped
      split at stepped
      · rename_i here
        obtain ⟨done, same⟩ := Option.ite_none_right_eq_some.mp stepped
        exact Option.some.inj same ▸ .closed here done
      all_goals cases stepped

end Aiodrive.PendingDaemon
