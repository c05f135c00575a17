import Aiodrive.Gather.Model

/-! `race()` of `modules/race.py`, from one suspension to the next, with the `gather()` call
that collects the cancelled tasks inlined where `race()` awaits it.
-/

namespace Aiodrive.Race

variable {ι ε α : Type*}

/-- Where `race()` is: its own wait, the `gather()` of its `except` branch, the `gather()` of
the losers, or its end.
-/
inductive Pc (ι ε α : Type*) where
  | firstWait
  | cancelledGather (gather : Gather.Pc ε α)
  | losersGather (winner : ι) (pending : List ι) (gather : Gather.Pc ε α)
  | exited (outcome : Outcome ε (Nat × α))

/-- The message of the cancel requests that `race()` makes on the losers. -/
def otherCompletedMessage : String := "Other task completed in race()"

/-- `race()` up to its first suspension; it asserts that there is an awaitable. -/
def start (tasks : List ι) : Pc ι ε α :=
  if tasks.isEmpty then .exited (.raised .assertionError) else .firstWait

/-- `await gather(tasks, sensitive=False)`, then `raise` of the delivered `CancelledError` -/
def afterCancelledGather : Gather.Pc ε α → Pc ι ε α
  | .exited (.returned _) => .exited (.raised .cancelledError)
  | .exited (.raised error) => .exited (.raised error)
  | gather => .cancelledGather gather

/-- `return tasks.index(winning_task), winning_task.result()` -/
def finish [DecidableEq ι] (tasks : List ι) (winner : ι) (state : FutureState ε α)
    : Outcome ε (Nat × α) :=
  match state.result with
  | .returned value => .returned (tasks.idxOf winner, value)
  | .raised error => .raised error

/-- `await gather(pending_tasks, sensitive=False)`, then the `return` of `race()` -/
def afterLosersGather [DecidableEq ι] (tasks : List ι) (winner : ι)
    (state : FutureState ε α) (pending : List ι)
    : Gather.Pc ε α → Pc ι ε α
  | .exited (.returned _) => .exited (finish tasks winner state)
  | .exited (.raised error) => .exited (.raised error)
  | gather => .losersGather winner pending gather

-----------------------------------------------------------------------------------------
-- Runs of one call
-----------------------------------------------------------------------------------------

structure State (ι ε α : Type*) where
  tasks : List ι
  table : TaskTable ι ε α
  pc : Pc ι ε α
  requests : List (CancelRequest ι)

/-- What can happen while a caller awaits `race()`. The two sets that the first wait returns
are given in their iteration order.
-/
inductive Event (ι ε α : Type*) where
  | complete (task : ι) (state : FutureState ε α)
  | cancelCaller (message : Option String)
  | firstReturns (done pending : List ι)
  | gatherReturns
deriving DecidableEq, Repr

def State.initial (tasks : List ι) (table : TaskTable ι ε α) : State ι ε α :=
  { tasks, table, pc := start tasks, requests := [] }

variable [DecidableEq ι]

/-- Resumes the `gather()` that `race()` awaits. -/
def State.resumeGather (state : State ι ε α) (result : WaitResume)
    : Option (State ι ε α) :=
  match state.pc with
  | .cancelledGather gather =>
      let (gather, requests) := Gather.resume state.tasks state.table gather result
      some { state with
        pc := afterCancelledGather gather
        requests := state.requests ++ requests }
  | .losersGather winner pending gather =>
      let (gather, requests) := Gather.resume pending state.table gather result
      some { state with
        pc := afterLosersGather state.tasks winner (state.table winner) pending gather
        requests := state.requests ++ requests }
  | .firstWait | .exited _ => none

/-- The tasks and the condition of the wait inside the awaited `gather()`, if any. -/
def Pc.gatherWait (tasks : List ι) : Pc ι ε α → Option (List ι × ReturnWhen)
  | .cancelledGather gather => gather.returnWhen.map (fun returnWhen => (tasks, returnWhen))
  | .losersGather _ pending gather =>
      gather.returnWhen.map (fun returnWhen => (pending, returnWhen))
  | .firstWait | .exited _ => none

def step (state : State ι ε α) : Event ι ε α → Option (State ι ε α)
  | .complete task ended =>
      (complete state.table task ended).map (fun table => { state with table })
  | .cancelCaller message =>
      match state.pc with
      | .firstWait =>
          some { state with
            pc := afterCancelledGather (Gather.start false state.tasks)
            requests := state.requests ++ cancelAll state.tasks message }
      | _ => state.resumeGather (.cancelledError message)
  | .firstReturns done pending =>
      match state.pc, done with
      | .firstWait, winner :: _ =>
          if done.Perm (doneTasks state.tasks state.table)
              ∧ pending.Perm (pendingTasks state.tasks state.table) then
            some { state with
              pc := afterLosersGather state.tasks winner (state.table winner) pending
                (Gather.start false pending)
              requests := state.requests ++ cancelAll pending (some otherCompletedMessage) }
          else
            none
      | _, _ => none
  | .gatherReturns =>
      (state.pc.gatherWait state.tasks).bind (fun (tasks, returnWhen) =>
        if waitReady tasks state.table returnWhen then state.resumeGather .returned else none)

/-- The steps of a call, one constructor for each branch. -/
inductive Move (state : State ι ε α) : Event ι ε α → State ι ε α → Prop where
  | completes {task : ι} {ended : FutureState ε α} {table : TaskTable ι ε α}
    (completed : complete state.table task ended = some table)
    : Move state (.complete task ended) { state with table }
  | cancelsWait {message : Option String} (here : state.pc = .firstWait)
    : Move state (.cancelCaller message)
        { state with
          pc := afterCancelledGather (Gather.start false state.tasks)
          requests := state.requests ++ cancelAll state.tasks message }
  | cancelsGather {message : Option String} {next : State ι ε α}
    (resumed : state.resumeGather (.cancelledError message) = some next)
    : Move state (.cancelCaller message) next
  | selects {winner : ι} {rest pending : List ι} (here : state.pc = .firstWait)
    (doneSet : (winner :: rest).Perm (doneTasks state.tasks state.table))
    (pendingSet : pending.Perm (pendingTasks state.tasks state.table))
    : Move state (.firstReturns (winner :: rest) pending)
        { state with
          pc := afterLosersGather state.tasks winner (state.table winner) pending
            (Gather.start false pending)
          requests := state.requests ++ cancelAll pending (some otherCompletedMessage) }
  | returnsGather {waited : List ι} {returnWhen : ReturnWhen} {next : State ι ε α}
    (waiting : state.pc.gatherWait state.tasks = some (waited, returnWhen))
    (ready : waitReady waited state.table returnWhen = true)
    (resumed : state.resumeGather .returned = some next)
    : Move state .gatherReturns next

/-- Every step is one of the moves. -/
theorem move_of_step {state next : State ι ε α} {event : Event ι ε α}
    (stepped : step state event = some next)
    : Move state event next := by
  cases event with
  | complete task ended =>
      obtain ⟨table, completed, rfl⟩ := Option.map_eq_some_iff.mp stepped
      exact .completes completed
  | cancelCaller message =>
      simp only [step] at stepped
      split at stepped
      · rename_i here
        exact Option.some.inj stepped ▸ .cancelsWait here
      · exact .cancelsGather stepped
  | firstReturns done pending =>
      simp only [step] at stepped
      split at stepped
      · rename_i here
        simp only [Option.ite_none_right_eq_some] at stepped
        obtain ⟨⟨doneSet, pendingSet⟩, same⟩ := stepped
        exact Option.some.inj same ▸ .selects here doneSet pendingSet
      · contradiction
  | gatherReturns =>
      obtain ⟨⟨waited, returnWhen⟩, waiting, stepped⟩ := Option.bind_eq_some_iff.mp stepped
      simp only [Option.ite_none_right_eq_some] at stepped
      exact .returnsGather waiting stepped.1 stepped.2

end Aiodrive.Race
