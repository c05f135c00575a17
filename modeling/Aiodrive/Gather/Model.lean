import Aiodrive.Asyncio.Wait
import Aiodrive.Transition.Runs

/-! `gather()` of `modules/gather.py`, from one suspension to the next, and the runs of a
caller that awaits it.
-/

namespace Aiodrive.Gather

variable {ι ε α : Type*}

/-- Where `gather()` is: its `FIRST_EXCEPTION` wait, the wait of its `while True` loop with the
local flags `cancelled` and `failed`, or its end.
-/
inductive Pc (ε α : Type*) where
  | firstWait
  | loopWait (cancelled failed : Bool)
  | exited (outcome : Outcome ε (List α))
deriving DecidableEq, Repr

/-- The message of the cancel requests that `gather()` makes on its own. -/
def failedMessage : String := "Exception raised in another task of gather()"

/-- `gather()` up to its first suspension, on the tasks of its awaitables. -/
def start (sensitive : Bool) (tasks : List ι) : Pc ε α :=
  if tasks.isEmpty then .exited (.returned [])
  else if sensitive then .firstWait
  else .loopWait false false

/-- `failed = any(task.cancelled() or (task.exception() is not None) for task in done_tasks)` -/
def anyFailed (tasks : List ι) (table : TaskTable ι ε α) : Bool :=
  (doneTasks tasks table).any
    (fun task => (table task).isCancelled || (table task).exception?.isSome)

/-- The end of `gather()`, after its loop. -/
def finish (tasks : List ι) (table : TaskTable ι ε α) (cancelled : Bool)
    : Outcome ε (List α) :=
  let exceptions := tasks.filterMap (fun task => (table task).exception?)
  if !exceptions.isEmpty then .raised (.group exceptions)
  else if cancelled || tasks.any (fun task => (table task).isCancelled) then
    .raised .cancelledError
  else .returned (tasks.filterMap (fun task => (table task).result?))

/-- `gather()` from where a wait resumes to its next suspension or its end, with the cancel
requests it makes on the way.
-/
def resume (tasks : List ι) (table : TaskTable ι ε α)
    : Pc ε α → WaitResume → Pc ε α × List (CancelRequest ι)
  | .firstWait, .cancelledError message => (.loopWait true false, cancelAll tasks message)
  | .firstWait, .returned =>
      let failed := anyFailed tasks table
      (.loopWait false failed, if failed then cancelAll tasks (some failedMessage) else [])
  | .loopWait _ failed, .cancelledError message =>
      -- The first cancellation after a failure is not forwarded again
      if failed then (.loopWait true false, [])
      else (.loopWait true false, cancelAll tasks message)
  | .loopWait cancelled _, .returned => (.exited (finish tasks table cancelled), [])
  | .exited outcome, _ => (.exited outcome, [])

/-- The condition of the wait that `gather()` is suspended in, if any. -/
def Pc.returnWhen : Pc ε α → Option ReturnWhen
  | .firstWait => some .firstException
  | .loopWait _ _ => some .allCompleted
  | .exited _ => none

/-- Once every task is done, the wait that `gather()` is suspended in is ready. -/
theorem ready_of_done {tasks : List ι} {table : TaskTable ι ε α} {pc : Pc ε α}
    {returnWhen : ReturnWhen} (waiting : pc.returnWhen = some returnWhen)
    (done : ∀ task ∈ tasks, (table task).done = true)
    : waitReady tasks table returnWhen = true := by
  have all : tasks.all (fun task => (table task).done) = true := List.all_eq_true.mpr done
  cases pc with
  | firstWait =>
      obtain rfl := Option.some.inj waiting
      simp only [waitReady, all, Bool.or_true]
  | loopWait cancelled failed =>
      obtain rfl := Option.some.inj waiting
      exact all
  | exited outcome => simp [Pc.returnWhen] at waiting

-----------------------------------------------------------------------------------------
-- Runs of one call
-----------------------------------------------------------------------------------------

structure State (ι ε α : Type*) where
  tasks : List ι
  table : TaskTable ι ε α
  pc : Pc ε α
  requests : List (CancelRequest ι)

/-- What can happen while a caller awaits `gather()`: a task ends, a `CancelledError` is
delivered to the caller, or the current wait returns.
-/
inductive Event (ι ε α : Type*) where
  | complete (task : ι) (state : FutureState ε α)
  | cancelCaller (message : Option String)
  | waitReturns
deriving DecidableEq, Repr

def State.initial (sensitive : Bool) (tasks : List ι) (table : TaskTable ι ε α)
    : State ι ε α :=
  { tasks, table, pc := start sensitive tasks, requests := [] }

def State.resumeWith (state : State ι ε α) (result : WaitResume) : State ι ε α :=
  let (pc, requests) := resume state.tasks state.table state.pc result
  { state with pc, requests := state.requests ++ requests }

def step [DecidableEq ι] (state : State ι ε α) : Event ι ε α → Option (State ι ε α)
  | .complete task ended =>
      (complete state.table task ended).map (fun table => { state with table })
  | .cancelCaller message =>
      state.pc.returnWhen.map (fun _ => state.resumeWith (.cancelledError message))
  | .waitReturns =>
      state.pc.returnWhen.bind (fun returnWhen =>
        if waitReady state.tasks state.table returnWhen then some (state.resumeWith .returned)
        else none)

/-- The steps, one constructor for each branch of `gather()`. -/
inductive Move [DecidableEq ι] (state : State ι ε α) : Event ι ε α → State ι ε α → Prop where
  | completes {task : ι} {ended : FutureState ε α} {table : TaskTable ι ε α}
    (completed : complete state.table task ended = some table)
    : Move state (.complete task ended) { state with table }
  | interruptsFirst {message : Option String} (waits : state.pc = .firstWait)
    : Move state (.cancelCaller message)
        { state with
          pc := .loopWait true false
          requests := state.requests ++ cancelAll state.tasks message }
  | absorbs {cancelled : Bool} {message : Option String}
    (waits : state.pc = .loopWait cancelled true)
    : Move state (.cancelCaller message) { state with pc := .loopWait true false }
  | forwards {cancelled : Bool} {message : Option String}
    (waits : state.pc = .loopWait cancelled false)
    : Move state (.cancelCaller message)
        { state with
          pc := .loopWait true false
          requests := state.requests ++ cancelAll state.tasks message }
  | firstReturns (waits : state.pc = .firstWait)
    (ready : waitReady state.tasks state.table .firstException = true)
    : Move state .waitReturns
        { state with
          pc := .loopWait false (anyFailed state.tasks state.table)
          requests :=
            state.requests
            ++ if anyFailed state.tasks state.table then
                cancelAll state.tasks (some failedMessage)
              else
                [] }
  | finishes {cancelled failed : Bool} (waits : state.pc = .loopWait cancelled failed)
    (ready : waitReady state.tasks state.table .allCompleted = true)
    : Move state .waitReturns
        { state with pc := .exited (finish state.tasks state.table cancelled) }

/-- Every step is one of the moves. -/
theorem move_of_step [DecidableEq ι] {state next : State ι ε α} {event : Event ι ε α}
    (stepped : step state event = some next)
    : Move state event next := by
  obtain ⟨tasks, table, pc, requests⟩ := state
  cases event with
  | complete task ended =>
      obtain ⟨table, completed, rfl⟩ := Option.map_eq_some_iff.mp stepped
      exact .completes completed
  | cancelCaller message =>
      obtain ⟨returnWhen, waits, rfl⟩ := Option.map_eq_some_iff.mp stepped
      cases pc with
      | firstWait => exact .interruptsFirst rfl
      | loopWait cancelled failed =>
          cases failed with
          | true =>
              simp only [State.resumeWith, resume, if_true, List.append_nil]
              exact .absorbs rfl
          | false => exact .forwards rfl
      | exited outcome => simp [Pc.returnWhen] at waits
  | waitReturns =>
      obtain ⟨returnWhen, waits, stepped⟩ := Option.bind_eq_some_iff.mp stepped
      simp only [Option.ite_none_right_eq_some] at stepped
      obtain ⟨ready, same⟩ := stepped
      cases pc with
      | firstWait =>
          obtain rfl := Option.some.inj waits
          exact Option.some.inj same ▸ .firstReturns rfl ready
      | loopWait cancelled failed =>
          obtain rfl := Option.some.inj waits
          simp only [State.resumeWith, resume, List.append_nil] at same
          exact Option.some.inj same ▸ .finishes rfl ready
      | exited outcome => simp [Pc.returnWhen] at waits

/-- A call keeps the tasks it was started on. -/
theorem step_tasks [DecidableEq ι] {state next : State ι ε α} {event : Event ι ε α}
    (stepped : step state event = some next)
    : next.tasks = state.tasks := by
  cases move_of_step stepped with
  | completes _ | interruptsFirst _ | absorbs _ | forwards _ | firstReturns _ _
  | finishes _ _ => rfl

/-- Only the end of a task changes the table. -/
theorem table_of_step [DecidableEq ι] {state next : State ι ε α} {event : Event ι ε α}
    (other : ∀ task ended, event ≠ .complete task ended) (stepped : step state event = some next)
    : next.table = state.table := by
  cases move_of_step stepped with
  | completes _ => exact (other _ _ rfl).elim
  | interruptsFirst _ | absorbs _ | forwards _ | firstReturns _ _ | finishes _ _ => rfl

end Aiodrive.Gather
