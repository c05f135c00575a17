import Aiodrive.Cancellation.CancelTask
import Aiodrive.Cancellation.GuaranteedTask
import Aiodrive.Cancellation.Scope

/-! `contextualize()` of `modules/contextualize.py`: a background task next to the body of a
context, whose failure cancels the body through a scope and is raised at the exit.
-/

namespace Aiodrive.Contextualize

open UseScope (Ending Exit Scope)

variable {ε : Type*}

/-- How the context exits: a `BaseExceptionGroup` may have a `CancelledError` as a member, and a
`RuntimeError` has the exception that left the generator as its cause.
-/
inductive ContextExit (ε : Type*) where
  | returned
  | raised (error : Raised ε)
  | group (members : List (Raised ε))
  | runtimeError (cause : ε)
deriving DecidableEq, Repr

/-- The exception is the one raised at the exit, or a member of the raised group. -/
def ContextExit.Carries (outcome : ContextExit ε) (error : ε) : Prop :=
  match outcome with
  | .returned | .runtimeError _ => False
  | .raised own => own = .exception error
  | .group members => .exception error ∈ members

/-- An exception leaves the async generator of `@asynccontextmanager`, which turns the
`StopAsyncIteration` of another into a `RuntimeError`; `stops` tells which exceptions are one.
-/
def leaveGenerator (stops : ε → Bool) : Raised ε → ContextExit ε
  | .exception error => if stops error then .runtimeError error else .raised (.exception error)
  | error => .raised error

/-- The branches of `contextualize()` after the scope, with the end of the `cancel_task()` that
each of them awaits. What the body raised is raised again as it is, also by a generator that
made it a `RuntimeError`.
-/
def conclude (stops : ε → Bool) : Exit ε → Outcome ε Unit → ContextExit ε
  | .cancelledError, .raised error => leaveGenerator stops error
  | .cancelledError, .returned _ => .raised .cancelledError
  | .raised error, .raised backgroundException => .group [.exception error, backgroundException]
  | .raised error, .returned _ => .raised (.exception error)
  | .returned, .raised error | .suppressed, .raised error => leaveGenerator stops error
  | .returned, .returned _ | .suppressed, .returned _ => .returned

/-- Where the context is: in its body, at the `await` of `cancel_task()` with a `CancelledError`
to be thrown there or not, or at its end. `ending` is how the body ended.
-/
inductive Place (ε : Type*) where
  | body
  | awaiting (ending : Ending ε) (exit : Exit ε) (thrown : Bool)
  | exited (ending : Ending ε) (outcome : ContextExit ε)
deriving DecidableEq, Repr

structure State (ε : Type*) where
  background : FutureState ε Unit
  guaranteed : GuaranteedTask
  /-- How often the background awaitable was started. -/
  started : Nat
  current : Task
  scope : Scope
  callbackRegistered : Bool
  callbackScheduled : Bool
  /-- The texts of the exceptions of the callback, which the event loop logs. -/
  logged : List String
  place : Place ε
deriving DecidableEq, Repr

/-- What can happen from the entry of the context on. A `CancelledError` of the body is one of
its endings, whatever it comes from.
-/
inductive Event (ε : Type*) where
  | firstStep
  | backgroundEnds (state : FutureState ε Unit)
  | callbackRuns
  | cancelCurrent (message : Option String)
  | bodyEnds (ending : Ending ε)
  | resumes
deriving DecidableEq, Repr

/-- The message of the cancel request that a failure of the background task makes. -/
def failedMessage : String := "Exception raised in background task of contextualize()"

/-- The context at its entry, in a task that has requests outstanding or not. -/
def State.initial (current : Task) : State ε where
  background := .pending
  guaranteed := .new
  started := 0
  current := current
  scope := { cancellationCount := 0, exited := false }
  callbackRegistered := true
  callbackScheduled := false
  logged := []
  place := .body

/-- The background task ends, and schedules its callback. -/
def State.endBackground (state : State ε) (ended : FutureState ε Unit) : State ε :=
  { state with background := ended, callbackScheduled := state.callbackRegistered }

/-- `callback(task)`, whose `scope.cancel()` raises if the scope has been exited. -/
def State.runCallback (state : State ε) : State ε :=
  let state := { state with callbackScheduled := false }
  if state.background.exception?.isSome then
    match state.scope.cancel state.current (some failedMessage) with
    | .ok (scope, current) => { state with scope, current }
    | .error text => { state with logged := state.logged ++ [text] }
  else
    state

/-- The end of the body: the scope is left, and `cancel_task()` starts or is over at once. -/
def State.leaveBody (stops : ε → Bool) (state : State ε) (ending : Ending ε) : State ε :=
  let (scope, current, exit) := UseScope.exit state.scope state.current ending
  let state := { state with scope, current, callbackRegistered := false }
  if state.background.done then
    { state with
      place := .exited ending (conclude stops exit (CancelTask.awaitTask state.background)) }
  else
    { state with
      guaranteed := (state.guaranteed.cancel state.background).1
      place := .awaiting ending exit false }

/-- The request that `current_task.cancel(message)` counts. -/
def State.countCancel (state : State ε) (message : Option String) : State ε :=
  { state with current := state.current.cancel message }

/-- A cancellation of the task that awaits `cancel_task()`: `GuaranteedTask.cancel()` is asked
first, and a `CancelledError` is thrown at the `await` only where it answers `False`. Any request
that it takes over after the end of the background task is lost.
-/
def State.cancelAwaiting (state : State ε) (ending : Ending ε) (exit : Exit ε) : State ε :=
  let (guaranteed, accepted) := state.guaranteed.cancel state.background
  if accepted then { state with guaranteed }
  else { state with place := .awaiting ending exit true }

/-- `stops` tells which exceptions are a `StopAsyncIteration`. -/
def step (stops : ε → Bool) (state : State ε) : Event ε → Option (State ε)
  | .firstStep =>
      if state.background.done || state.guaranteed.ready then none
      else
        match state.guaranteed.firstStep with
        | some guaranteed => some { state with guaranteed, started := state.started + 1 }
        | none => some (state.endBackground .cancelled)
  | .backgroundEnds ended =>
      if !state.background.done && state.guaranteed.ready && ended.done then
        some (state.endBackground ended)
      else
        none
  | .callbackRuns => if state.callbackScheduled then some state.runCallback else none
  | .cancelCurrent message =>
      match state.place with
      | .body => some (state.countCancel message)
      | .awaiting ending exit _ =>
          some ((state.countCancel message).cancelAwaiting ending exit)
      | .exited _ _ => none
  | .bodyEnds ending =>
      match state.place with
      | .body => some (state.leaveBody stops ending)
      | .awaiting _ _ _ | .exited _ _ => none
  | .resumes =>
      match state.place with
      | .awaiting ending exit thrown =>
          if state.background.done then
            let (guaranteed, outcome) :=
              CancelTask.resume state.background state.guaranteed thrown
            some { state with guaranteed, place := .exited ending (conclude stops exit outcome) }
          else
            none
      | .body | .exited _ _ => none

-----------------------------------------------------------------------------------------
-- The moves of a context
-----------------------------------------------------------------------------------------

/-- The steps of a context, one constructor for each branch. -/
inductive Move (stops : ε → Bool) (state : State ε)
    : Event ε → State ε → Prop where
  | starts {guaranteed : GuaranteedTask} (notDone : state.background.done = false)
    (unready : state.guaranteed.ready = false)
    (first : state.guaranteed.firstStep = some guaranteed)
    : Move stops state .firstStep { state with guaranteed, started := state.started + 1 }
  | skips (notDone : state.background.done = false) (unready : state.guaranteed.ready = false)
    (first : state.guaranteed.firstStep = none)
    : Move stops state .firstStep (state.endBackground .cancelled)
  | ends {ended : FutureState ε Unit} (notDone : state.background.done = false)
    (ready : state.guaranteed.ready = true) (done : ended.done = true)
    : Move stops state (.backgroundEnds ended) (state.endBackground ended)
  | runsCallback (scheduled : state.callbackScheduled = true)
    : Move stops state .callbackRuns state.runCallback
  | cancelsBody {message : Option String} (here : state.place = .body)
    : Move stops state (.cancelCurrent message) (state.countCancel message)
  | cancelsAwaiting {message : Option String} {ending : Ending ε} {exit : Exit ε}
    {thrown : Bool} (here : state.place = .awaiting ending exit thrown)
    : Move stops state (.cancelCurrent message)
        ((state.countCancel message).cancelAwaiting ending exit)
  | leavesBody {ending : Ending ε} (here : state.place = .body)
    : Move stops state (.bodyEnds ending) (state.leaveBody stops ending)
  | concludes {ending : Ending ε} {exit : Exit ε} {thrown : Bool}
    (here : state.place = .awaiting ending exit thrown) (done : state.background.done = true)
    : Move stops state .resumes
        { state with
          guaranteed := (CancelTask.resume state.background state.guaranteed thrown).1
          place := .exited ending
            (conclude stops exit (CancelTask.resume state.background state.guaranteed thrown).2) }

/-- Every step is one of the moves. -/
theorem move_of_step {stops : ε → Bool} {state next : State ε}
    {event : Event ε} (stepped : step stops state event = some next)
    : Move stops state event next := by
  cases event with
  | firstStep =>
      simp only [step, Option.ite_none_left_eq_some, Bool.or_eq_true, not_or,
        Bool.not_eq_true] at stepped
      obtain ⟨⟨notDone, unready⟩, stepped⟩ := stepped
      split at stepped
      · rename_i guaranteed first
        exact Option.some.inj stepped ▸ .starts notDone unready first
      · rename_i first
        exact Option.some.inj stepped ▸ .skips notDone unready first
  | backgroundEnds ended =>
      simp only [step, Option.ite_none_right_eq_some, Bool.and_eq_true,
        Bool.not_eq_true'] at stepped
      obtain ⟨⟨⟨notDone, ready⟩, done⟩, same⟩ := stepped
      exact Option.some.inj same ▸ .ends notDone ready done
  | callbackRuns =>
      simp only [step, Option.ite_none_right_eq_some] at stepped
      obtain ⟨scheduled, same⟩ := stepped
      exact Option.some.inj same ▸ .runsCallback scheduled
  | cancelCurrent message =>
      simp only [step] at stepped
      split at stepped
      · rename_i here
        exact Option.some.inj stepped ▸ .cancelsBody here
      · rename_i here
        exact Option.some.inj stepped ▸ .cancelsAwaiting here
      · contradiction
  | bodyEnds ending =>
      simp only [step] at stepped
      split at stepped
      · rename_i here
        exact Option.some.inj stepped ▸ .leavesBody here
      · contradiction
      · contradiction
  | resumes =>
      simp only [step] at stepped
      split at stepped
      · rename_i here
        simp only [Option.ite_none_right_eq_some] at stepped
        obtain ⟨done, same⟩ := stepped
        exact Option.some.inj same ▸ .concludes here done
      · contradiction
      · contradiction

end Aiodrive.Contextualize
