import Aiodrive.Asyncio.Future
import Aiodrive.Asyncio.Task
import Aiodrive.Transition.Runs

/-! `asyncio.TaskGroup`: the tasks of one group, the task that entered it, and the code that leaves
it, which another task may run where the group is used in an async generator. A `SystemExit` or
`KeyboardInterrupt` is left out, which the group raises alone.
-/

namespace Aiodrive.TaskGroup

variable {ε : Type*}

/-- A task of the group: whether it was asked to cancel, and whether it is still in `_tasks`,
where it stays up to its done callback.
-/
structure Child (ε : Type*) where
  state : FutureState ε Unit
  asked : Bool
  held : Bool
deriving DecidableEq, Repr

/-- `create_task(coro)` -/
def Child.new : Child ε :=
  { state := .pending, asked := false, held := true }

/-- `if not t.done(): t.cancel()` -/
def Child.cancel (child : Child ε) : Child ε :=
  if child.state.done then child else { child with asked := true }

/-- What the group has noticed of a task that failed. -/
def Child.failure? (child : Child ε) : Option ε :=
  if child.held then none else child.state.exception?

/-- How the body ends, which is `exc` of `__aexit__`. -/
inductive Ending (ε : Type*) where
  | returned
  | cancelledError
  | raised (error : ε)
deriving DecidableEq, Repr

/-- The exception of a body that the group raises with those of its tasks. -/
def Ending.error? : Ending ε → Option ε
  | raised error => some error
  | returned | cancelledError => none

/-- How the `async with` ends: it raises nothing, a `CancelledError`, the exception of the body,
or a `BaseExceptionGroup`.
-/
inductive Exit (ε : Type*) where
  | returned
  | cancelledError
  | raised (error : ε)
  | group (errors : List ε)
deriving DecidableEq, Repr

/-- What is left of a body past an `__aexit__` that returns. -/
def Ending.exit : Ending ε → Exit ε
  | returned => .returned
  | cancelledError => .cancelledError
  | raised error => .raised error

/-- In the body; in `__aexit__`, with `propagate_cancellation_error`, on `_on_completed_fut`; or
past it.
-/
inductive Place (ε : Type*) where
  | inside
  | exiting (ending : Ending ε) (propagates : Bool) (waiter : FutureState Empty Unit)
  | left (ending : Ending ε) (exit : Exit ε)
deriving DecidableEq, Repr

/-- A `CancelledError` for `__aexit__`, also where the future is done. -/
def Place.interrupt : Place ε → Place ε
  | exiting ending propagates _ => exiting ending propagates .cancelled
  | place => place

/-- `self._on_completed_fut.set_result(True)`, where it is not done. -/
def Place.complete : Place ε → Place ε
  | exiting ending propagates .pending => exiting ending propagates (.success ())
  | place => place

/-- `own` says whether the task that entered the group also leaves it. -/
structure State (ε : Type*) where
  own : Bool
  children : List (Child ε)
  errors : List ε
  aborting : Bool
  parentCancelRequested : Bool
  parent : Task
  place : Place ε
deriving DecidableEq, Repr

/-- What can happen: a task is created, ends, or its done callback runs; the parent is asked to
cancel; a `CancelledError` is on its way into `__aexit__` in another task; the body ends; or
`__aexit__` goes on.
-/
inductive Event (ε : Type*) where
  | creates
  | childEnds (index : Nat) (result : FutureState ε Unit)
  | childNoticed (index : Nat)
  | cancels
  | interrupts
  | bodyEnds (ending : Ending ε)
  | resumes
deriving DecidableEq, Repr

namespace State

/-- `self._tasks` is not empty. -/
def holds (state : State ε) : Bool :=
  state.children.any (fun child => child.held)

/-- Whether `create_task` does not raise. -/
def accepts (state : State ε) : Bool :=
  match state.place with
  | .inside => !state.aborting
  | .exiting _ _ _ | .left _ _ => !state.aborting && state.holds

/-- `_abort()` -/
def abort (state : State ε) : State ε :=
  { state with aborting := true, children := state.children.map Child.cancel }

/-- A `CancelledError` on its way to the code that leaves the group. -/
def interrupt (state : State ε) : State ε :=
  { state with place := state.place.interrupt }

/-- `self._parent_task.cancel()`, or a request of others. -/
def cancelParent (state : State ε) : State ε :=
  let asked := { state with parent := state.parent.cancel none }
  if state.own then asked.interrupt else asked

/-- The future is done with the last task. -/
def complete (state : State ε) : State ε :=
  if state.holds then state else { state with place := state.place.complete }

/-- The end of `_on_task_done(task)` for a task that failed, where the task that entered the
group has not ended: past its end the loop is only told of the failure.
-/
def fail (state : State ε) (error : ε) : State ε :=
  let failed := { state with errors := state.errors ++ [error] }
  if state.aborting || state.parentCancelRequested then failed
  else { failed.abort with parentCancelRequested := true : State ε }.cancelParent

/-- `self._tasks.discard(task)` -/
def discard (state : State ε) (index : Nat) (child : Child ε) : State ε :=
  { state with children := state.children.set index { child with held := false } }

/-- `_on_task_done(task)` -/
def onTaskDone (state : State ε) (index : Nat) (child : Child ε) : State ε :=
  match child.state.exception? with
  | some error => (state.discard index child).complete.fail error
  | none => (state.discard index child).complete

/-- `if self._parent_cancel_requested: self._parent_task.uncancel()` -/
def parentAfter (state : State ε) : Task :=
  if state.parentCancelRequested then state.parent.uncancel else state.parent

/-- What `__aexit__` does once no task is left. The body has taken no request on the task back, as
`uncancel()` or `asyncio.timeout()` would.
-/
def conclude (state : State ε) (ending : Ending ε) (propagates : Bool) : State ε :=
  let parent := state.parentAfter
  let errors := state.errors ++ ending.error?.toList
  if propagates && !(state.parentCancelRequested && parent.cancelling == 0)
      && state.errors.isEmpty then
    { state with parent, place := .left ending .cancelledError }
  else if errors.isEmpty then
    { state with parent, place := .left ending ending.exit }
  else
    { state with
      parent := if 0 < parent.cancelling then parent.uncancel.cancel none else parent
      place := .left ending (.group errors) }

/-- `while self._tasks:`, up to its suspension or the end of `__aexit__`. -/
def wait (state : State ε) (ending : Ending ε) (propagates : Bool) : State ε :=
  if state.holds then { state with place := .exiting ending propagates .pending }
  else state.conclude ending propagates

/-- `__aexit__`, up to its suspension or its end. -/
def exit (state : State ε) (ending : Ending ε) : State ε :=
  match ending with
  | .returned => state.wait ending false
  | .cancelledError => (if state.aborting then state else state.abort).wait ending true
  | .raised _ => (if state.aborting then state else state.abort).wait ending false

/-- `except exceptions.CancelledError`, and the next turn of the loop. -/
def catchCancelled (state : State ε) (ending : Ending ε) (propagates : Bool) : State ε :=
  if state.aborting then state.wait ending propagates else state.abort.wait ending true

end State

/-- A group that `parent` has just entered. -/
def State.initial (own : Bool) (parent : Task) : State ε where
  own
  children := []
  errors := []
  aborting := false
  parentCancelRequested := false
  parent
  place := .inside

def step (state : State ε) : Event ε → Option (State ε)
  | .creates =>
      if state.accepts then some { state with children := state.children ++ [.new] } else none
  | .childEnds index result =>
      match state.children[index]? with
      | some child =>
          if child.state.done || !result.done then none
          else
            some { state with children := state.children.set index { child with state := result } }
      | none => none
  | .childNoticed index =>
      match state.children[index]? with
      | some child =>
          if child.held && child.state.done then some (state.onTaskDone index child) else none
      | none => none
  | .cancels => some state.cancelParent
  | .interrupts => if state.own then none else some state.interrupt
  | .bodyEnds ending =>
      match state.place with
      | .inside => some (state.exit ending)
      | .exiting _ _ _ | .left _ _ => none
  | .resumes =>
      match state.place with
      | .exiting ending propagates (.success _) => some (state.wait ending propagates)
      | .exiting ending propagates .cancelled => some (state.catchCancelled ending propagates)
      | .exiting _ _ .pending | .exiting _ _ (.exception _) | .inside | .left _ _ => none

/-- The requests on the parent in a schedule. -/
def requests (events : List (Event ε)) : Nat :=
  events.countP
    (fun
      | .cancels => true
      | _ => false)

end Aiodrive.TaskGroup
