import Aiodrive.TaskGroup.Volatile

/-! `TCPServer.listen()` of `modules/tcp.py`, as `using_pending_daemon_handle` runs it: up to its
`yield` in one task, and on from there in another.
-/

namespace Aiodrive.TCPServer

open ExceptionGroups (Thrown)

variable {ε : Type*}

/-- Where `handle_connection_async` is: not started, in the handler, or at `await
context.shield(writer.wait_closed())` with what the handler left, and whether its task had been
asked to cancel by then; or past its end, and whether it closed its writer.
-/
inductive Handler (ε : Type*) where
  | unstarted
  | handling
  | closing (result : FutureState ε Unit) (asked : Bool)
  | ended (closed : Bool)
deriving DecidableEq, Repr

def Handler.isEnded : Handler ε → Bool
  | ended _ => true
  | unstarted | handling | closing _ _ => false

/-- Where `listen()` is: at its `yield`; at `await suspend()`; in the `__aexit__` of its group; at
`await context.shield(server.wait_closed())` with what the group raised, and so many
`CancelledError`s there; or past its end.
-/
inductive Stage (ε : Type*) where
  | serving
  | suspending (interrupted : Bool)
  | leaving
  | closing (raised : Option (Thrown (Suppress.Error (VolatileTaskGroup.Error ε))))
      (interrupts : Nat)
  | ended (raised : Option (Thrown (Suppress.Error (VolatileTaskGroup.Error ε))))

/-- `eager` is whether tasks start at once, as from Python 3.14 on, and `entered` the task of
the first half as it was then. A connection is `attached` to the server before
`handle_connection_sync` runs for it, and refused where the group creates no task for it.
-/
structure State (ε : Type*) where
  eager : Bool
  entered : Task
  group : TaskGroup.State (VolatileTaskGroup.Error ε)
  handlers : List (Handler ε)
  listening : Bool
  attached : Nat
  refused : Nat
  stage : Stage ε

/-- What can happen: a connection is accepted, or made; a handler starts, ends, or its writer is
closed, with an error or not; the done callback of its task runs; the task of the first half is
asked to cancel, or the second half gets a `CancelledError`; and the generator is resumed, or
goes on. A socket that is accepted but not attached when the server is closed is not counted:
asyncio asserts there that the server still listens, and drops it.
-/
inductive Event (ε : Type*) where
  | attaches
  | connects
  | handlerStarts (index : Nat)
  | handlerEnds (index : Nat) (result : FutureState ε Unit)
  | writerCloses (index : Nat) (error : Option ε)
  | handlerNoticed (index : Nat)
  | cancels
  | interrupts
  | resumes
  | goesOn
deriving DecidableEq, Repr

/-- A server that has just started, and the group that the first half has entered. -/
def State.initial (eager : Bool) (entered : Task) : State ε where
  eager
  entered
  group := .initial false entered
  handlers := []
  listening := true
  attached := 0
  refused := 0
  stage := .serving

namespace State

/-- A step of the group. -/
def groupStep (state : State ε) (event : TaskGroup.Event ε) : Option (State ε) :=
  (VolatileTaskGroup.step state.group event).map (fun group => { state with group })

/-- The task of a handler ends. -/
def endTask (state : State ε) (index : Nat) (result : FutureState ε Unit) (closed : Bool)
    : Option (State ε) :=
  { state with handlers := state.handlers.set index (.ended closed) : State ε }.groupStep
    (.childEnds index result)

/-- `handle_connection_sync` -/
def connect (state : State ε) : State ε :=
  match VolatileTaskGroup.step state.group .creates with
  | some group =>
      { state with
        group
        handlers := state.handlers ++ [if state.eager then .handling else .unstarted] }
  | none => { state with refused := state.refused + 1 }

/-- On in the group's `__aexit__`, or past it. -/
def settle (state : State ε) : State ε :=
  { state with
    stage :=
      match state.group.place with
      | .left _ groupExit =>
          .closing (VolatileTaskGroup.exit state.entered state.group.parent groupExit) 0
      | .inside | .exiting _ _ _ => .leaving }

/-- `shield_count - self._initial_cancellation_count` of `context.shield()`. -/
def shieldCount (state : State ε) : Nat :=
  1 - state.entered.cancelling

/-- Whether `await context.shield(server.wait_closed())` can end: the server is closed, or the
waiting itself is cancelled.
-/
def stopsWaiting (state : State ε) (interrupts : Nat) : Bool :=
  !state.listening || decide (state.shieldCount < interrupts)

/-- The second half, from one of its suspensions on. -/
def goOn (state : State ε) : Option (State ε) :=
  match state.stage with
  | .suspending false =>
      ({ state with listening := false : State ε }.groupStep (.bodyEnds .returned)).map settle
  | .suspending true => (state.groupStep (.bodyEnds .cancelledError)).map settle
  | .leaving => (state.groupStep .resumes).map settle
  | .closing raised interrupts =>
      if state.stopsWaiting interrupts then
        some
          { state with
            stage := .ended (if interrupts = 0 then raised else some (.single .cancelledError)) }
      else
        none
  | .serving | .ended _ => none

/-- A `CancelledError` for the second half. -/
def interrupt (state : State ε) : Option (State ε) :=
  match state.stage with
  | .suspending _ => some { state with stage := .suspending true }
  | .leaving => state.groupStep .interrupts
  | .closing raised interrupts => some { state with stage := .closing raised (interrupts + 1) }
  | .serving | .ended _ => none

end State

/-- How the task of a handler ends after `context.shield(writer.wait_closed())`: with the error
of the writer, a `CancelledError` that the shield held back, or as the handler did.
-/
def closedResult (result : FutureState ε Unit) (interrupted : Bool) : Option ε → FutureState ε Unit
  | some error => .exception error
  | none => if interrupted then .cancelled else result

def step (state : State ε) : Event ε → Option (State ε)
  | .attaches =>
      if state.listening then some { state with attached := state.attached + 1 } else none
  | .connects =>
      if state.attached = 0 then none
      else some (State.connect { state with attached := state.attached - 1 })
  | .handlerStarts index =>
      match state.handlers[index]?, state.group.children[index]? with
      | some .unstarted, some child =>
          -- A task that is cancelled before its first step never enters its coroutine
          if child.asked then state.endTask index .cancelled false
          else some { state with handlers := state.handlers.set index .handling }
      | _, _ => none
  | .handlerEnds index result =>
      match state.handlers[index]?, state.group.children[index]? with
      | some .handling, some child =>
          if result.done then
            some { state with handlers := state.handlers.set index (.closing result child.asked) }
          else
            none
      | _, _ => none
  | .writerCloses index error =>
      match state.handlers[index]?, state.group.children[index]? with
      | some (.closing result asked), some child =>
          state.endTask index (closedResult result (child.asked && !asked) error) true
      | _, _ => none
  | .handlerNoticed index => state.groupStep (.childNoticed index)
  | .cancels => state.groupStep .cancels
  | .interrupts => state.interrupt
  | .resumes =>
      match state.stage with
      | .serving => some { state with stage := .suspending false }
      | .suspending _ | .leaving | .closing _ _ | .ended _ => none
  | .goesOn => state.goOn

end Aiodrive.TCPServer
