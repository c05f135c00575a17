import Aiodrive.Asyncio.Future
import Aiodrive.Transition.Runs
import Mathlib.Logic.Function.Basic

/-! `MultiprocessingProcess` of `modules/multiprocessing.py`: the calls of `spawn()`, by task id,
and the `_loop()` that receives the replies of the child.
-/

namespace Aiodrive.MultiprocessingProcess

variable {ε α : Type*}

/-- Where a `spawn()` is: not called; ended before its `CreateTaskMessage` was written; in the
`drain()` of that message, or ended in it; at `await shield(future)`, with its variable
`cancelled` and whether a `CancelledError` is on its way; in the `drain()` of its
`CancelTaskMessage`; or ended after its future was registered.
-/
inductive Spawn where
  | unused
  | unsent
  | draining
  | abandoned
  | awaiting (cancelled interrupted : Bool)
  | cancelling
  | ended
deriving DecidableEq, Repr

/-- Whether `_loop()` runs, and how it ended: at the end of the stream, by what `recv()` raised,
or by an exception of its own at a reply or at the end of the stream.
-/
inductive Loop where
  | running
  | closed
  | recvError
  | keyError
  | assertionError
  | invalidStateError
deriving DecidableEq, Repr

/-- `tasks` has the keys of `_tasks`, `futures` the futures of all `spawn()`, and `replied` the
tasks whose `FinishTaskMessage` was received.
-/
structure State (ε α : Type*) where
  nextTaskId : Nat
  spawns : Nat → Spawn
  tasks : List Nat
  futures : Nat → FutureState ε α
  replied : Nat → Bool
  loop : Loop

def State.initial : State ε α :=
  { nextTaskId := 0, spawns := fun _ => .unused, tasks := [], futures := fun _ => .pending,
    replied := fun _ => false, loop := .running }

/-- `spawn()` is called, and `pickle.dumps` or `to_bytes(4)` may raise in it, or its `drain()`
suspend; a `drain()` that suspended returns or raises; the caller is cancelled; a `spawn()`
goes on after `await shield(future)`; or `_loop()` receives a message or the end of the stream, or
its `recv()` raises another exception than `EOFError`, of the connection or of `pickle.loads`.
-/
inductive Event (ε α : Type*) where
  | call (suspends : Bool)
  | callRaises
  | drained (taskId : Nat)
  | drainRaises (taskId : Nat)
  | cancel (taskId : Nat)
  | resume (taskId : Nat) (suspends : Bool)
  | receive (taskId : Nat) (state : FutureState ε α)
  | endOfStream (error : ε)
  | recvRaises
deriving DecidableEq, Repr

def State.setSpawn (state : State ε α) (taskId : Nat) (spawn : Spawn) : State ε α :=
  { state with spawns := Function.update state.spawns taskId spawn }

section

variable (state : State ε α) (taskId : Nat) (spawn : Spawn)

@[simp] theorem State.nextTaskId_setSpawn
    : (state.setSpawn taskId spawn).nextTaskId = state.nextTaskId :=
  rfl

@[simp] theorem State.tasks_setSpawn : (state.setSpawn taskId spawn).tasks = state.tasks := rfl

@[simp] theorem State.futures_setSpawn
    : (state.setSpawn taskId spawn).futures = state.futures :=
  rfl

@[simp] theorem State.replied_setSpawn
    : (state.setSpawn taskId spawn).replied = state.replied :=
  rfl

@[simp] theorem State.loop_setSpawn : (state.setSpawn taskId spawn).loop = state.loop := rfl

@[simp] theorem State.spawns_setSpawn (other : Nat)
    : (state.setSpawn taskId spawn).spawns other
      = if other = taskId then spawn else state.spawns other :=
  Function.update_apply ..

end

/-- `spawn()` after the `drain()` of its `CreateTaskMessage`, up to `await shield(future)`. -/
def State.register (state : State ε α) (taskId : Nat) : State ε α :=
  { state with
    futures := Function.update state.futures taskId .pending
    tasks := state.tasks ++ [taskId] }.setSpawn taskId (.awaiting false false)

section

variable (state : State ε α) (taskId : Nat)

@[simp] theorem State.nextTaskId_register
    : (state.register taskId).nextTaskId = state.nextTaskId :=
  rfl

@[simp] theorem State.tasks_register : (state.register taskId).tasks = state.tasks ++ [taskId] :=
  rfl

@[simp] theorem State.replied_register : (state.register taskId).replied = state.replied := rfl

@[simp] theorem State.loop_register : (state.register taskId).loop = state.loop := rfl

@[simp] theorem State.spawns_register (other : Nat)
    : (state.register taskId).spawns other
      = if other = taskId then .awaiting false false else state.spawns other :=
  Function.update_apply ..

@[simp] theorem State.futures_register (other : Nat)
    : (state.register taskId).futures other
      = if other = taskId then .pending else state.futures other :=
  Function.update_apply ..

end

/-- The beginning of `spawn()`, up to the `drain()` if it suspends. -/
def State.call (state : State ε α) (suspends : Bool) : State ε α :=
  let called := { state with nextTaskId := state.nextTaskId + 1 }
  if suspends then called.setSpawn state.nextTaskId .draining
  else called.register state.nextTaskId

/-- `spawn()` where `await shield(future)` raises `CancelledError` for its cancellation. -/
def State.interrupt (state : State ε α) (taskId : Nat) (suspends : Bool) : State ε α :=
  if (state.futures taskId).done then state.setSpawn taskId .ended
  else if suspends then state.setSpawn taskId .cancelling
  else state.setSpawn taskId (.awaiting true false)

/-- The loop of `spawn()` from its beginning, after a `CancelTaskMessage`. -/
def State.awaitAgain (state : State ε α) (taskId : Nat) : State ε α :=
  if (state.futures taskId).done then state.setSpawn taskId .ended
  else state.setSpawn taskId (.awaiting true false)

/-- `_loop()` at a `FinishTaskMessage`. -/
def State.receive (state : State ε α) (taskId : Nat) (message : FutureState ε α) : State ε α :=
  let received := { state with replied := Function.update state.replied taskId true }
  if taskId ∈ state.tasks then
    let popped := { received with tasks := state.tasks.filter (· ≠ taskId) }
    match message.transfer (state.futures taskId) with
    | some future => { popped with futures := Function.update state.futures taskId future }
    | none => { popped with loop := .assertionError }
  else
    { received with loop := .keyError }

/-- `_loop()` at the end of the stream, for the values of `_tasks` left. `set_exception()` raises
`InvalidStateError` on a future that is done.
-/
def State.endOfStream (state : State ε α) (error : ε) : List Nat → State ε α
  | [] => { state with tasks := [], loop := .closed }
  | taskId :: rest =>
      if (state.futures taskId).done then
        { state with loop := .invalidStateError }
      else
        { state with
          futures := Function.update state.futures taskId (.exception error)
        }.endOfStream error rest

/-- The `CreateTaskMessage` was written. -/
def Spawn.Written : Spawn → Bool
  | draining | abandoned | awaiting .. | cancelling | ended => true
  | unused | unsent => false

/-- The child replies at most once to a message that was written, any time later. -/
def step (state : State ε α) : Event ε α → Option (State ε α)
  | .call suspends => some (state.call suspends)
  | .callRaises =>
      some ({ state with nextTaskId := state.nextTaskId + 1 }.setSpawn state.nextTaskId .unsent)
  | .drained taskId =>
      match state.spawns taskId with
      | .draining => some (state.register taskId)
      | .cancelling => some (state.awaitAgain taskId)
      | .unused | .unsent | .abandoned | .awaiting .. | .ended => none
  | .drainRaises taskId =>
      match state.spawns taskId with
      | .draining => some (state.setSpawn taskId .abandoned)
      | .cancelling => some (state.setSpawn taskId .ended)
      | .unused | .unsent | .abandoned | .awaiting .. | .ended => none
  | .cancel taskId =>
      match state.spawns taskId with
      | .draining => some (state.setSpawn taskId .abandoned)
      | .awaiting cancelled _ => some (state.setSpawn taskId (.awaiting cancelled true))
      | .cancelling => some (state.setSpawn taskId .ended)
      | .unused | .unsent | .abandoned | .ended => none
  | .resume taskId suspends =>
      match state.spawns taskId with
      | .awaiting _ true => some (state.interrupt taskId suspends)
      | .awaiting _ false =>
          if (state.futures taskId).done then some (state.setSpawn taskId .ended) else none
      | .unused | .unsent | .draining | .abandoned | .cancelling | .ended => none
  | .receive taskId message =>
      if state.loop = .running ∧ (state.spawns taskId).Written ∧ state.replied taskId = false then
        some (state.receive taskId message)
      else
        none
  | .endOfStream error =>
      if state.loop = .running then some (state.endOfStream error state.tasks) else none
  | .recvRaises => if state.loop = .running then some { state with loop := .recvError } else none

end Aiodrive.MultiprocessingProcess
