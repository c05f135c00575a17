import Aiodrive.Asyncio.Future
import Aiodrive.Asyncio.Task
import Aiodrive.Transition.Runs

/-! `Process` of `modules/process.py`: a task in `Process.wait()`, the process that it waits
for, and whoever cancels the task.
-/

namespace Aiodrive.Process

/-- What `Process.wait()` raises. -/
inductive Error where
  | processTerminatedException (code : Int)
  | processLookupError
deriving DecidableEq, Repr

/-- What asyncio knows of a process, with the descriptors of its pipes that are still connected. Its
transport is lost once the exit code is known and all of them are disconnected.
-/
inductive Proc where
  | running (pipes : List Nat)
  | exited (returncode : Int) (pipes : List Nat)
  | lost (returncode : Int)
deriving DecidableEq, Repr

/-- `self._proc.returncode` -/
def Proc.returncode : Proc → Option Int
  | running _ => none
  | exited returncode _ | lost returncode => some returncode

/-- The pipes that are still connected. -/
def Proc.pipes : Proc → List Nat
  | running pipes | exited _ pipes => pipes
  | lost _ => []

/-- The process once one of its pipes is disconnected. -/
def Proc.disconnect (pipe : Nat) : Proc → Proc
  | running pipes => .running (pipes.erase pipe)
  | exited returncode pipes => .exited returncode (pipes.erase pipe)
  | lost returncode => .lost returncode

@[simp] theorem Proc.returncode_disconnect (pipe : Nat) (proc : Proc)
    : (proc.disconnect pipe).returncode = proc.returncode := by
  cases proc <;> rfl

theorem Proc.eq_lost_of_disconnect {pipe : Nat} {proc : Proc} {code : Int}
    (lost : proc.disconnect pipe = .lost code)
    : proc = .lost code := by
  cases proc with
  | running pipes => contradiction
  | exited returncode pipes => contradiction
  | lost returncode => exact lost

/-- Where the task is: at `await self._proc.wait()`, the first one or one in the loop, on a
future of its own; or past the call.
-/
inductive Place where
  | waiting (inLoop : Bool) (waiter : FutureState Empty Int)
  | ended (outcome : Outcome Error Unit)
deriving DecidableEq, Repr

variable {ς : Type*}

/-- The signals that got to the process, `cancelling` of the task at the call and now, and how many
`CancelledError`s were thrown in the call.
-/
structure State (ς : Type*) where
  proc : Proc
  signals : List ς
  initialCancellationCount : Nat
  task : Task
  place : Place
  thrown : Nat
deriving DecidableEq, Repr

/-- What can happen: the process exits; a pipe is disconnected, which may take long after that, as
where its output is not read or another process holds it; the transport is lost, and those who wait
are told; and the task is asked to cancel, or resumes.
-/
inductive Event where
  | exits (code : Int)
  | disconnects (pipe : Nat)
  | loses
  | cancel (message : Option String)
  | resume
deriving DecidableEq, Repr

/-- The end of `Process.wait()`, from where it has an exit code: an exception is raised before the
check of `ensure_correct_cancellation()`.
-/
def State.conclude (state : State ς) (code : Int) : State ς :=
  { state with
    place :=
      .ended
        (if code ≠ 0 then .raised (.exception (.processTerminatedException code))
        else if state.initialCancellationCount < state.task.cancelling then .raised .cancelledError
        else .returned ()) }

/-- `await self._proc.wait()`, up to its suspension, or on to the end of the call. -/
def State.wait (state : State ς) (inLoop : Bool) : State ς :=
  match state.proc.returncode with
  | some code => state.conclude code
  | none => { state with place := .waiting inLoop .pending }

/-- A call of `Process.wait()` in a task. -/
def State.initial (proc : Proc) (task : Task) : State ς :=
  { proc
    signals := []
    initialCancellationCount := task.cancelling
    task
    place := .waiting false .pending
    thrown := 0 : State ς }.wait false

/-- `self._proc.send_signal(signal)`; `none` is its `ProcessLookupError`, and the signal of a
process that has exited goes nowhere.
-/
def State.sendSignal (state : State ς) (signal : ς) : Option (State ς) :=
  match state.proc with
  | .running _ => some { state with signals := state.signals ++ [signal] }
  | .exited _ _ => some state
  | .lost _ => none

/-- `waiter.set_result(returncode)` for the future that the call waits on, unless it is cancelled -/
def Place.tell (returncode : Int) : Place → Place
  | waiting inLoop .pending => .waiting inLoop (.success returncode)
  | place => place

/-- A call that is not suspended on its future is not told anything. -/
theorem Place.tell_eq_self {place : Place} {returncode : Int}
    (awake : ∀ inLoop, place ≠ .waiting inLoop .pending)
    : place.tell returncode = place := by
  cases place with
  | ended outcome => rfl
  | waiting inLoop waiter =>
      cases waiter with
      | pending => exact absurd rfl (awake inLoop)
      | _ => rfl

/-- The two `except asyncio.CancelledError`, and the next turn of the loop. -/
def State.interrupt (firstSignal subsequentSignals : ς) (state : State ς) (inLoop : Bool)
    : State ς :=
  let state := { state with thrown := state.thrown + 1 }
  match state.sendSignal (if inLoop then subsequentSignals else firstSignal) with
  | none => { state with place := .ended (.raised (.exception .processLookupError)) }
  | some state => state.wait true

def step (firstSignal subsequentSignals : ς) (state : State ς) : Event → Option (State ς)
  | .exits code =>
      match state.proc with
      | .running pipes => some { state with proc := .exited code pipes }
      | .exited _ _ | .lost _ => none
  | .disconnects pipe =>
      if pipe ∈ state.proc.pipes then
        some { state with proc := state.proc.disconnect pipe }
      else none
  -- `_call_connection_lost()` of asyncio, which alone wakes those who wait
  | .loses =>
      match state.proc with
      | .exited code [] => some { state with proc := .lost code, place := state.place.tell code }
      | .running _ | .exited _ (_ :: _) | .lost _ => none
  | .cancel message =>
      match state.place with
      -- A request that finds the future done is thrown when the task resumes all the same
      | .waiting inLoop _ =>
          some { state with
            task := state.task.cancel message
            place := .waiting inLoop .cancelled }
      | .ended _ => none
  | .resume =>
      match state.place with
      | .waiting _ (.success code) => some (state.conclude code)
      | .waiting inLoop .cancelled =>
          some (state.interrupt firstSignal subsequentSignals inLoop)
      | .waiting _ .pending | .waiting _ (.exception _) | .ended _ => none

/-- The signals of the first so many `CancelledError`s. -/
def signalsFor (firstSignal subsequentSignals : ς) : Nat → List ς
  | 0 => []
  | more + 1 => firstSignal :: List.replicate more subsequentSignals

end Aiodrive.Process
