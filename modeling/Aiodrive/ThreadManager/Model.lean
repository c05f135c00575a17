import Aiodrive.Asyncio.Wait
import Aiodrive.Transition.Runs

/-! `ThreadManager` of `modules/thread_manager.py`: calls of `spawn()` from other event loops,
the tasks they create in the manager's thread, and the exit of the manager. The callers' loops
run for as long as their calls do.
-/

namespace Aiodrive.ThreadManager

variable {ε α : Type*}

/-- The event loop of the thread: running, stopped for good, or closed. -/
inductive LoopPhase where
  | running
  | stopped
  | closed
deriving DecidableEq, Repr

/-- The `TaskGroup` of `_main()`: open, shutting down after `_main()` was cancelled, or left. -/
inductive GroupPhase where
  | running
  | aborting
  | finished
deriving DecidableEq, Repr

/-- How far a call of `spawn()` has come in the thread: `call_soon_threadsafe()` raised or queued
`_create()`; `_create()` failed in `self._group.create_task()`, or put `create_task()` into the
group; that task was cancelled before its first step, or awaits the inner task; its call
of `transfer()` is on the way to the caller's loop, or has run.
-/
inductive Stage (ε α : Type*) where
  | unspawned
  | refused
  | queued
  | rejected
  | created (mustCancel : Bool)
  | skipped
  | running
  | transferring (state : FutureState ε α)
  | transferred
deriving DecidableEq, Repr

/-- `create_task()` is in the group. -/
def Stage.inGroup : Stage ε α → Bool
  | created _ | running => true
  | unspawned | refused | queued | rejected | skipped | transferring _ | transferred => false

/-- `_create()` has made the inner task. -/
def Stage.hasInner : Stage ε α → Bool
  | unspawned | refused | queued => false
  | rejected | created _ | skipped | running | transferring _ | transferred => true

/-- How `spawn()` ends: with the `RuntimeError` of a closed loop, or behind its `await`. -/
inductive Exit (ε α : Type*) where
  | refused
  | ended (outcome : Outcome ε α)
deriving DecidableEq, Repr

/-- The caller: at `await shield(future)`, with its local flag `cancelled`, the message of a
`CancelledError` that will be thrown there, and the number of those thrown before; or at the
end of `spawn()`.
-/
inductive Caller (ε α : Type*) where
  | absent
  | awaiting (cancelled : Bool) (interrupted : Option (Option String)) (delivered : Nat)
  | exited (exit : Exit ε α) (delivered : Nat)
deriving DecidableEq, Repr

/-- One call of `spawn()`: its stage in the thread, the inner task and whether it is in `_tasks`,
the future, the caller, and the messages of the calls of `_cancel()` that are queued.
-/
structure Spawn (ε α : Type*) where
  stage : Stage ε α
  inner : FutureState ε α
  registered : Bool
  future : FutureState ε α
  caller : Caller ε α
  cancels : List (Option String)
deriving DecidableEq, Repr

/-- The manager, with the cancel requests that its inner tasks have got. -/
structure State (ε α : Type*) where
  nextTaskId : Nat
  loop : LoopPhase
  group : GroupPhase
  spawns : Nat → Spawn ε α
  requests : List (CancelRequest Nat)

def Spawn.blank : Spawn ε α :=
  { stage := .unspawned, inner := .pending, registered := false, future := .pending,
    caller := .absent, cancels := [] }

/-- The manager once it has been entered. -/
def State.initial : State ε α :=
  { nextTaskId := 0, loop := .running, group := .running, spawns := fun _ => .blank,
    requests := [] }

/-- What can happen: calls of `spawn()`, which are cancelled and resume; the stages of a call in
the thread and its transfer back; and the exit of the manager.
-/
inductive Event (ε α : Type*) where
  | spawn
  | create (taskId : Nat)
  | start (taskId : Nat)
  | innerEnds (taskId : Nat) (state : FutureState ε α)
  | wrapperResumes (taskId : Nat)
  | transfer (taskId : Nat)
  | abort
  | groupEnds
  | stopLoop
  | closeLoop
  | cancelCaller (taskId : Nat) (message : Option String)
  | cancelRuns (taskId : Nat)
  | resume (taskId : Nat)
deriving Repr

/-- `spawn()` up to its first suspension, or to the `RuntimeError` of a closed loop. -/
def Spawn.new (loop : LoopPhase) : Spawn ε α :=
  if loop = .closed then { Spawn.blank with stage := .refused, caller := .exited .refused 0 }
  else { Spawn.blank with stage := .queued, caller := .awaiting false none 0 }

/-- `_create()`, whose `self._group.create_task()` raises `RuntimeError` unless the group is
open.
-/
def Spawn.create (group : GroupPhase) (spawn : Spawn ε α) : Spawn ε α :=
  { spawn with
    registered := true
    stage := if group = .running then .created false else .rejected }

/-- The first step of `create_task()`, or the `CancelledError` thrown instead of it. -/
def Spawn.start (mustCancel : Bool) (spawn : Spawn ε α) : Spawn ε α :=
  { spawn with stage := if mustCancel then .skipped else .running }

/-- `create_task()` from where its `await` resumes: `transfer_threadsafe()` and the `finally`. A
cancellation of `create_task()` itself comes to the same as the state of the inner task.
-/
def Spawn.resumeWrapper (spawn : Spawn ε α) : Spawn ε α :=
  { spawn with stage := .transferring spawn.inner, registered := false }

/-- The abort of the group cancels `create_task()`, at its start or at its `await`. -/
def Spawn.abort (spawn : Spawn ε α) : Spawn ε α :=
  match spawn.stage with
  | .created _ => { spawn with stage := .created true }
  | _ => spawn

/-- The end of `spawn()` where `await shield(future)` does not raise `CancelledError` of its own:
`if cancelled: raise asyncio.CancelledError` and `return result`, or the exception of the future.
-/
def finish (cancelled : Bool) (future : FutureState ε α) : Outcome ε α :=
  match future.result with
  | .returned value => if cancelled then .raised .cancelledError else .returned value
  | .raised error => .raised error

/-- `spawn()` from where its `await shield(future)` resumes, to the next one or to its end. A
`CancelledError` thrown there while the future is pending is forwarded with `_cancel()`, where
the `RuntimeError` of a closed loop is suppressed.
-/
def Spawn.resume (loop : LoopPhase) (spawn : Spawn ε α) : Option (Spawn ε α) :=
  match spawn.caller with
  | .awaiting cancelled (some message) delivered =>
      if spawn.future.done then
        some { spawn with caller := .exited (.ended (.raised .cancelledError)) (delivered + 1) }
      else
        some { spawn with
          caller := .awaiting cancelled none (delivered + 1)
          cancels := if loop = .closed then spawn.cancels else spawn.cancels ++ [message] }
  | .awaiting cancelled none delivered =>
      if spawn.future.done then
        some { spawn with caller := .exited (.ended (finish cancelled spawn.future)) delivered }
      else
        none
  | .absent | .exited _ _ => none

def State.setSpawn (state : State ε α) (taskId : Nat) (spawn : Spawn ε α) : State ε α :=
  { state with spawns := Function.update state.spawns taskId spawn }

/-- The abort of the group, whose requests to the tasks at their `await` pass to the inner tasks. -/
def State.abort (state : State ε α) : State ε α :=
  let awaiting := (List.range state.nextTaskId).filter (fun taskId =>
    decide ((state.spawns taskId).stage matches .running)
      && !(state.spawns taskId).inner.done)
  { state with
    group := .aborting
    spawns := fun taskId => (state.spawns taskId).abort
    requests := state.requests ++ cancelAll awaiting none }

def step (state : State ε α) : Event ε α → Option (State ε α)
  | .spawn =>
      some { state.setSpawn state.nextTaskId (.new state.loop) with
        nextTaskId := state.nextTaskId + 1 }
  | .create taskId =>
      let spawn := state.spawns taskId
      match state.loop, spawn.stage with
      | .running, .queued => some (state.setSpawn taskId (spawn.create state.group))
      | _, _ => none
  | .start taskId =>
      let spawn := state.spawns taskId
      match state.loop, spawn.stage with
      | .running, .created mustCancel => some (state.setSpawn taskId (spawn.start mustCancel))
      | _, _ => none
  | .innerEnds taskId ended =>
      let spawn := state.spawns taskId
      if state.loop = .running ∧ spawn.stage.hasInner ∧ !spawn.inner.done ∧ ended.done then
        some (state.setSpawn taskId { spawn with inner := ended })
      else
        none
  | .wrapperResumes taskId =>
      let spawn := state.spawns taskId
      match state.loop, spawn.stage with
      | .running, .running =>
          if spawn.inner.done then some (state.setSpawn taskId spawn.resumeWrapper) else none
      | _, _ => none
  | .transfer taskId =>
      let spawn := state.spawns taskId
      match spawn.stage with
      | .transferring ended =>
          (ended.transfer spawn.future).map (fun future =>
            state.setSpawn taskId { spawn with future, stage := .transferred })
      | _ => none
  | .abort =>
      if state.loop = .running ∧ state.group = .running then some state.abort else none
  | .groupEnds =>
      -- The group waits for its tasks
      if state.loop = .running ∧ state.group = .aborting
          ∧ (List.range state.nextTaskId).all
            (fun taskId => !(state.spawns taskId).stage.inGroup) then
        some { state with group := .finished }
      else
        none
  | .stopLoop =>
      if state.loop = .running ∧ state.group = .finished then
        some { state with loop := .stopped }
      else
        none
  | .closeLoop => if state.loop = .stopped then some { state with loop := .closed } else none
  | .cancelCaller taskId message =>
      let spawn := state.spawns taskId
      match spawn.caller with
      | .awaiting cancelled interrupted delivered =>
          some (state.setSpawn taskId { spawn with
            caller := .awaiting cancelled (interrupted.or (some message)) delivered })
      | .absent | .exited _ _ => none
  | .cancelRuns taskId =>
      -- The callbacks of one caller run in their order
      let spawn := state.spawns taskId
      match state.loop, spawn.stage, spawn.cancels with
      | .running, .queued, _ => none
      | .running, _, message :: cancels =>
          some { state.setSpawn taskId { spawn with cancels } with
            requests :=
              if spawn.registered then state.requests ++ [{ task := taskId, message }]
              else state.requests }
      | _, _, _ => none
  | .resume taskId =>
      ((state.spawns taskId).resume state.loop).map (state.setSpawn taskId)

end Aiodrive.ThreadManager
