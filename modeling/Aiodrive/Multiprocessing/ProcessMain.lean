import Aiodrive.Asyncio.Future
import Aiodrive.Transition.Runs
import Mathlib.Algebra.Ring.Nat
import Mathlib.Logic.Function.Basic

/-! `process_main_async()` of `modules/multiprocessing.py`: the loop that handles the messages
of the parent, and the `wait_task()` tasks it creates in its `TaskGroup`. Task ids are those
of `spawn()`, which never gives one twice.
-/

namespace Aiodrive.ProcessMain

variable {ε α : Type*}

structure FinishTaskMessage (ε α : Type*) where
  state : FutureState ε α
  taskId : Nat
deriving DecidableEq, Repr

/-- `pickle.dumps` of a message, and whether `except (TypeError, PicklingError)` catches what
it raises.
-/
structure Pickle (ε α : Type*) where
  dumps : FinishTaskMessage ε α → Except ε (List UInt8)
  caught : ε → Bool

/-- The `try` of `wait_task()`: the message sent, and its pickle. -/
def Pickle.finishMessage (pickle : Pickle ε α) (message : FinishTaskMessage ε α)
    : Except ε (FinishTaskMessage ε α × List UInt8) :=
  match pickle.dumps message with
  | .ok data => .ok (message, data)
  | .error error =>
      if pickle.caught error then
        let failed := { message with state := .exception error }
        (pickle.dumps failed).map (fun data => (failed, data))
      else
        .error error

/-- Where the `wait_task()` of an id is: not created; created, with a cancellation that its
first step will find or not; in `target`; in the `drain()` of its answer; returned; cancelled
before its first step; or ended by an exception.
-/
inductive Phase where
  | absent
  | created (mustCancel : Bool)
  | running
  | sending
  | finished
  | neverRan
  | failed
deriving DecidableEq, Repr

/-- The tasks, the keys of `tasks`, the messages written, and the `TaskGroup`: whether a task
failed in it, and whether it saw that and aborts.
-/
structure State (ε α : Type*) where
  phases : Nat → Phase
  tasks : List Nat
  sent : List (FinishTaskMessage ε α)
  errors : Bool
  aborting : Bool

def State.initial : State ε α :=
  { phases := fun _ => .absent, tasks := [], sent := [], errors := false, aborting := false }

/-- A `CreateTaskMessage` or `CancelTaskMessage` is handled, a task takes its first step, where
the call of `target` may raise, its awaitable is absorbed with an outcome, its `drain()`
returns, or the `TaskGroup` sees that a task failed.
-/
inductive Event (ε α : Type*) where
  | create (taskId : Nat)
  | cancel (taskId : Nat)
  | start (taskId : Nat) (call : Option (Raised ε))
  | outcome (taskId : Nat) (state : FutureState ε α)
  | drained (taskId : Nat)
  | abort
deriving DecidableEq, Repr

def State.setPhase (state : State ε α) (taskId : Nat) (phase : Phase) : State ε α :=
  { state with phases := Function.update state.phases taskId phase }

section

variable (state : State ε α) (taskId : Nat) (phase : Phase)

@[simp] theorem State.tasks_setPhase : (state.setPhase taskId phase).tasks = state.tasks := rfl

@[simp] theorem State.sent_setPhase : (state.setPhase taskId phase).sent = state.sent := rfl

@[simp] theorem State.errors_setPhase : (state.setPhase taskId phase).errors = state.errors :=
  rfl

@[simp] theorem State.phases_setPhase (other : Nat)
    : (state.setPhase taskId phase).phases other
      = if other = taskId then phase else state.phases other :=
  Function.update_apply ..

end

/-- `Task.cancel()`. In `target` the `CancelledError` is absorbed with the outcome, and after
the last step nothing happens.
-/
def Phase.cancel : Phase → Phase
  | created _ => created true
  | phase => phase

def State.create (state : State ε α) (taskId : Nat) : State ε α :=
  { state with tasks := state.tasks ++ [taskId] }.setPhase taskId (.created false)

def State.cancel (state : State ε α) (taskId : Nat) : State ε α :=
  if taskId ∈ state.tasks then state.setPhase taskId (state.phases taskId).cancel
  else state

/-- An exception leaves `wait_task()`. -/
def State.fail (state : State ε α) (taskId : Nat) : State ε α :=
  { state with errors := true }.setPhase taskId .failed

/-- `message.target(*args, **kwargs)`, outside what `absorb_awaitable()` absorbs. A task that
ends with `CancelledError` is no failure for its `TaskGroup`.
-/
def State.call (state : State ε α) (taskId : Nat) : Option (Raised ε) → State ε α
  | none => state.setPhase taskId .running
  | some .cancelledError => state.setPhase taskId .failed
  | some _ => state.fail taskId

/-- `wait_task()` from the outcome to the `drain()`. `del tasks[message.task_id]` raises
`KeyError` where the id is not there, and `to_bytes(4)` raises `OverflowError` where the size
does not fit.
-/
def State.finish (pickle : Pickle ε α) (state : State ε α) (taskId : Nat)
    (outcome : FutureState ε α)
    : State ε α :=
  match pickle.finishMessage { state := outcome, taskId } with
  | .error _ => state.fail taskId
  | .ok (message, data) =>
      if taskId ∈ state.tasks then
        let deleted := { state with tasks := state.tasks.filter (· ≠ taskId) }
        if data.length < 2 ^ 32 then
          { deleted with sent := state.sent ++ [message] }.setPhase taskId .sending
        else
          deleted.fail taskId
      else
        state.fail taskId

/-- `TaskGroup._abort()` cancels the tasks, and the task of the loop. -/
def State.abort (state : State ε α) : State ε α :=
  { state with aborting := true, phases := fun taskId => (state.phases taskId).cancel }

def step (pickle : Pickle ε α) (state : State ε α) : Event ε α → Option (State ε α)
  | .create taskId =>
      if state.phases taskId = .absent ∧ state.aborting = false then
        some (state.create taskId)
      else
        none
  | .cancel taskId =>
      if state.phases taskId ≠ .absent ∧ state.aborting = false then
        some (state.cancel taskId)
      else
        none
  | .start taskId call =>
      match state.phases taskId with
      | .created true => some (state.setPhase taskId .neverRan)
      | .created false => some (state.call taskId call)
      | .absent | .running | .sending | .finished | .neverRan | .failed => none
  | .outcome taskId outcome =>
      if state.phases taskId = .running ∧ outcome.done = true then
        some (state.finish pickle taskId outcome)
      else
        none
  | .drained taskId =>
      if state.phases taskId = .sending then some (state.setPhase taskId .finished) else none
  | .abort => if state.errors = true ∧ state.aborting = false then some state.abort else none

-----------------------------------------------------------------------------------------
-- What becomes of a task
-----------------------------------------------------------------------------------------

/-- The task did not finish, and its body runs or will. -/
def Phase.WillRun : Phase → Prop
  | created false | running => True
  | absent | created true | sending | finished | neverRan | failed => False

/-- The task ends without an answer: it will not run its body, or did not come to its end. -/
def Phase.Lost : Phase → Prop
  | created true | neverRan | failed => True
  | absent | created false | running | sending | finished => False

/-- The task is in `tasks`, unless it was lost. -/
def Phase.Listed : Phase → Prop
  | created _ | running => True
  | absent | sending | finished | neverRan | failed => False

/-- How many answers the task has written. -/
def Phase.answers : Phase → Nat
  | sending | finished => 1
  | absent | created _ | running | neverRan | failed => 0

/-- How many `FinishTaskMessage` were sent for a task. -/
def State.answers (state : State ε α) (taskId : Nat) : Nat :=
  (state.sent.map FinishTaskMessage.taskId).count taskId

-----------------------------------------------------------------------------------------
-- Pickles
-----------------------------------------------------------------------------------------

/-- The opcodes of a short text, `SHORT_BINUNICODE` and `MEMOIZE`. -/
def textOpcodes (text : String) : List UInt8 :=
  [140, text.length.toUInt8] ++ text.toList.map (fun char => char.toNat.toUInt8) ++ [148]

/-- A `FinishTaskMessage` in protocol 4, from the opcodes of the exception and the status of its
`FutureState`, where the result is `None` and the id is below 256.
-/
def pickled (exception status : List UInt8) (taskId : Nat) : List UInt8 :=
  let frame :=
    textOpcodes "aiodrive.modules.multiprocessing" ++ textOpcodes "FinishTaskMessage"
      ++ [147, 148, 41, 129, 148, 78, 125, 148, 40] ++ textOpcodes "state"
      ++ textOpcodes "aiodrive.modules.future_state" ++ textOpcodes "FutureState"
      ++ [147, 148, 41, 129, 148, 78, 125, 148, 40]
      ++ textOpcodes "exception" ++ exception ++ textOpcodes "result" ++ [78]
      ++ textOpcodes "status" ++ status
      ++ [117, 134, 148, 98] ++ textOpcodes "task_id" ++ [75, taskId.toUInt8]
      ++ [117, 134, 148, 98, 46]
  [128, 4, 149, frame.length.toUInt8, 0, 0, 0, 0, 0, 0, 0] ++ frame

/-- `pickle.dumps` for built-in exceptions without arguments. The status "exception" is the name
of a field, which is in the memo.
-/
def pickleMessage (message : FinishTaskMessage String Unit) : List UInt8 :=
  match message.state with
  | .cancelled => pickled [78] (textOpcodes "cancelled") message.taskId
  | .exception error =>
      pickled (textOpcodes "builtins" ++ textOpcodes error ++ [147, 148, 41, 82, 148]) [104, 11]
        message.taskId
  | .pending => pickled [78] (textOpcodes "pending") message.taskId
  | .success _ => pickled [78] (textOpcodes "success") message.taskId

end Aiodrive.ProcessMain
