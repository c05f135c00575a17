import Aiodrive.Cancellation.Suppress
import Aiodrive.ThreadLoop.LaunchSync

/-! The function `finish()` that `launch_in_thread_loop_sync()` of `modules/thread_sync.py` returns,
and `run_in_thread_loop_sync()`, which calls it at once. It may be called again, also to cancel the
target.
-/

namespace Aiodrive.FinishSync

open ExceptionGroups (Thrown)
open Suppress (Code)
open ThreadLoop (Stage ThreadEvent Place)

variable {ε α : Type*}

/-- What the target raises, or the `RuntimeError` of `FutureState.apply()`. -/
inductive Failure (ε : Type*) where
  | runtimeError (message : String)
  | raised (error : ε)
deriving DecidableEq, Repr

/-- The exceptions, and groups of them. -/
abbrev Exception (ε : Type*) := Thrown (Suppress.Error (Failure ε))

/-- Where the launching thread is: in `launch_in_thread_loop_sync()`; with `finish` in its hands; in
`finish()`, at `call_soon_threadsafe(task.cancel)`, in `stage.wait_until_sync()` or in
`thread.join()`; or past it.
-/
inductive Caller (ε α : Type*) where
  | launching
  | ready
  | asking
  | waiting
  | joining
  | exited (outcome : Outcome (Exception ε) (Option α))

/-- No call of `finish()` goes on, and another one may begin. -/
def Caller.Idle : Caller ε α → Prop
  | ready | exited _ => True
  | launching | asking | waiting | joining => False

/-- The thread and its caller; whether the task is one of the thread's own loop, and whether the
loop of the task is closed; the calls of `task.cancel()` that it has accepted and did not run
yet; and how many of those that it ran found the task pending.
-/
structure State (ε α : Type*) where
  worker : ThreadLoop.State (Exception ε) α
  caller : Caller ε α
  own : Bool
  closed : Bool
  scheduled : Nat
  requests : Nat

def State.initial : State ε α :=
  { worker := .initial, caller := .launching, own := false, closed := false, scheduled := 0,
    requests := 0 }

/-- The thread goes on; the loop of the task runs a call of `task.cancel()`, or is closed. The
launching thread waits in either function; it calls `finish()`, and goes on there.
-/
inductive Event (ε α : Type*) where
  | thread (event : ThreadEvent (Exception ε) α)
  | runCancel
  | closeLoop
  | waitUntilSync
  | check
  | resume
  | finish (cancel : Bool)
  | callSoonThreadsafe
  | join

/-- The predicate of `finish()`. -/
def isJoin (value : Stage) : Bool := value = .join

/-- The exceptions that `finish()` suppresses. -/
def isCancelledError : Suppress.Error (Failure ε) → Bool
  | .cancelledError => true
  | .suppressFailureError _ | .assertionError | .raised _ => false

/-- What `FutureState.apply()` raises. -/
def raisedBy : FutureState (Exception ε) α → Option (Exception ε)
  | .cancelled => some (.single .cancelledError)
  | .exception exception => some exception
  | .pending => some (.single (.raised (.runtimeError "Future is still pending")))
  | .success _ => none

/-- `with suppress(asyncio.CancelledError): return result.apply()`, and what follows it, for a
caller at the given place that others have asked to cancel before or not.
-/
def apply (place : Suppress.Place) (current : Task) (result : FutureState (Exception ε) α)
    : Outcome (Exception ε) (Option α) :=
  let body : Code (Failure ε) := fun task => (task, raisedBy result)
  match (Suppress.suppress place isCancelledError false body current).2 with
  | some exception => .raised (.exception exception)
  | none => .returned result.result?

/-- `stage.wait_until_sync(lambda value: value == "join")`, up to its first check. -/
def State.waitForJoin (state : State ε α) : State ε α :=
  let stage := state.worker.stage.begin () (.checking isJoin none)
  { state with worker := { state.worker with stage }, caller := .waiting }

/-- `finish(cancel)`, up to `call_soon_threadsafe()` or the first check. -/
def State.finish (state : State ε α) (cancel : Bool) : State ε α :=
  match state.worker.task with
  | none => { state with caller := .exited (.raised .assertionError) }
  | some _ => if cancel then { state with caller := .asking } else state.waitForJoin

/-- `task.get_loop().call_soon_threadsafe(task.cancel)`, whose `RuntimeError` is caught. -/
def State.callSoonThreadsafe (state : State ε α) : State ε α :=
  if state.closed then state else { state with scheduled := state.scheduled + 1 }

/-- `task.cancel()`, called by the loop of the task. -/
def State.runCancel (state : State ε α) : State ε α :=
  match state.worker.task with
  | some .pending =>
      { state with scheduled := state.scheduled - 1, requests := state.requests + 1 }
  | some .cancelled | some (.exception _) | some (.success _) | none =>
      { state with scheduled := state.scheduled - 1 }

/-- The launching thread goes on where `stage.wait_until_sync()` has returned. -/
def State.proceed (state : State ε α) : State ε α :=
  match state.worker.stage.clients (), state.caller with
  | .returned _ _, .launching => { state with caller := .ready }
  | .returned _ _, .waiting => { state with caller := .joining }
  | _, _ => state

/-- The end of `finish()` past `thread.join()`. -/
def State.conclude (place : Suppress.Place) (current : Task) (state : State ε α) : State ε α :=
  match state.worker.result with
  | some result => { state with caller := .exited (apply place current result) }
  | none => { state with caller := .exited (.raised .assertionError) }

/-- The task is done, or `asyncio.run()` does not await it. -/
def State.Released (state : State ε α) : Prop :=
  ∃ task, state.worker.task = some task ∧ (task.done = true ∨ state.worker.attached = false)

instance (state : State ε α) : Decidable state.Released :=
  match here : state.worker.task with
  | some task =>
      decidable_of_iff (task.done = true ∨ state.worker.attached = false)
        (by simp [State.Released, here])
  | none => isFalse (by simp [State.Released, here])

/-- A step of the thread. `asyncio.run()` closes its loop before it returns. -/
def State.threadStep (state : State ε α) (event : ThreadEvent (Exception ε) α)
    : Option (State ε α) :=
  match event with
  | .ensureFuture =>
      (ThreadLoop.threadStep state.worker event).map (fun worker =>
        { state with worker, own := true })
  | .runReturns =>
      if state.own && !state.closed then none
      else (ThreadLoop.threadStep state.worker event).map (fun worker => { state with worker })
  | _ => (ThreadLoop.threadStep state.worker event).map (fun worker => { state with worker })

/-- What a step of `stage.wait_until_sync()` leads to. -/
def State.awaitStage (state : State ε α) (stepped : Option (ThreadLoop.State (Exception ε) α))
    : Option (State ε α) :=
  stepped.map (fun worker => { state with worker }.proceed)

def step (place : Suppress.Place) (current : Task) (state : State ε α)
    : Event ε α → Option (State ε α)
  | .thread event => state.threadStep event
  | .runCancel => if 0 < state.scheduled ∧ state.closed = false then some state.runCancel else none
  | .closeLoop =>
      if state.Released ∧ state.closed = false then some { state with closed := true } else none
  | .waitUntilSync =>
      match state.caller with
      | .launching => state.awaitStage (LaunchSync.step state.worker .waitUntilSync)
      | .ready | .asking | .waiting | .joining | .exited _ => none
  | .check =>
      match state.caller with
      | .launching | .waiting => state.awaitStage (state.worker.onStage (.check ()))
      | .ready | .asking | .joining | .exited _ => none
  | .resume =>
      match state.caller with
      | .launching | .waiting => state.awaitStage (state.worker.onStage (.resume ()))
      | .ready | .asking | .joining | .exited _ => none
  | .finish cancel =>
      match state.caller with
      | .ready | .exited _ => some (state.finish cancel)
      | .launching | .asking | .waiting | .joining => none
  | .callSoonThreadsafe =>
      match state.caller with
      | .asking => some state.callSoonThreadsafe.waitForJoin
      | .launching | .ready | .waiting | .joining | .exited _ => none
  | .join =>
      match state.caller with
      | .joining =>
          if state.worker.place = .finished then some (state.conclude place current) else none
      | .launching | .ready | .asking | .waiting | .exited _ => none

variable {place : Suppress.Place} {current : Task} {state next final : State ε α}

-----------------------------------------------------------------------------------------
-- Where a step leaves the caller
-----------------------------------------------------------------------------------------

@[simp] theorem worker_runCancel (state : State ε α) : state.runCancel.worker = state.worker := by
  unfold State.runCancel
  split <;> rfl

@[simp] theorem caller_runCancel (state : State ε α) : state.runCancel.caller = state.caller := by
  unfold State.runCancel
  split <;> rfl

@[simp] theorem caller_waitForJoin (state : State ε α) : state.waitForJoin.caller = .waiting :=
  rfl

@[simp] theorem clients_waitForJoin (state : State ε α)
    : state.waitForJoin.worker.stage.clients () = .checking isJoin none := by
  simp [State.waitForJoin, ThreadsafeState.State.begin, ThreadsafeState.State.setClient]

/-- A call asks, waits or has failed its first `assert`. -/
theorem finish_cases (state : State ε α) (cancel : Bool)
    : state.finish cancel = { state with caller := .exited (.raised .assertionError) }
      ∨ state.finish cancel = { state with caller := .asking }
      ∨ state.finish cancel = state.waitForJoin := by
  unfold State.finish
  split
  · exact .inl rfl
  · cases cancel with
    | true => exact .inr (.inl rfl)
    | false => exact .inr (.inr rfl)

theorem conclude_cases (place : Suppress.Place) (current : Task) (state : State ε α)
    : ∃ outcome, state.conclude place current = { state with caller := .exited outcome } := by
  unfold State.conclude
  split <;> exact ⟨_, rfl⟩

-----------------------------------------------------------------------------------------
-- What finish() makes of a result
-----------------------------------------------------------------------------------------

end Aiodrive.FinishSync
