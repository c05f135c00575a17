import Aiodrive.Gather.Outcome
import Aiodrive.Race.Model

/-! What `race()` makes of its winner. The losers are collected with `gather()`, which reports
a cancelled task by raising: the winner is delivered exactly when nothing is left to collect.
-/

namespace Aiodrive.Race

variable {ι ε α : Type*} [DecidableEq ι]

-----------------------------------------------------------------------------------------
-- Collecting the losers, once the first wait has selected a winner
-----------------------------------------------------------------------------------------

/-- `race()` holds a successful winner and awaits a `gather()` call on `pending` that no
cancellation was delivered to, or has ended as that call tells it to.
-/
structure Collecting (tasks : List ι) (winner : ι) (value : α) (pending : List ι)
    (state : State ι ε α)
    : Prop where
  tasks_eq : state.tasks = tasks
  winner_eq : state.table winner = .success value
  others : ∀ task ∈ tasks, task ∉ pending → (state.table task).done = true
  follows
    : ∃ gather : Gather.Pc ε α,
        gather.Agrees False pending state.table
        ∧ state.pc = afterLosersGather tasks winner (.success value) pending gather

/-- The return of the first wait starts the collection of the tasks it reports as pending. -/
theorem collecting_of_firstReturns {first second : State ι ε α} {winner : ι} {value : α}
    {done pending : List ι}
    (stepped : step first (.firstReturns (winner :: done) pending) = some second)
    (succeeded : first.table winner = .success value)
    : pending.Perm (pendingTasks first.tasks first.table)
      ∧ second.table = first.table
      ∧ Collecting first.tasks winner value pending second := by
  cases move_of_step stepped with
  | selects here doneSet pendingSet =>
      refine ⟨pendingSet, rfl, rfl, succeeded, ?_, Gather.start false pending,
        Gather.start_agrees false pending first.table, ?_⟩
      · intro task member absent
        by_contra notDone
        apply absent
        rw [pendingSet.mem_iff, pendingTasks, List.mem_filter]
        exact ⟨member, by simpa using notDone⟩
      · simp only [succeeded]

/-- An unfinished `gather()` is one that `race()` still awaits. -/
theorem afterLosersGather_waiting {tasks : List ι} {winner : ι} {state : FutureState ε α}
    {pending : List ι} {gather : Gather.Pc ε α} {returnWhen : ReturnWhen}
    (waiting : gather.returnWhen = some returnWhen)
    : afterLosersGather tasks winner state pending gather
      = .losersGather winner pending gather := by
  cases gather with
  | exited outcome => simp [Gather.Pc.returnWhen] at waiting
  | firstWait => rfl
  | loopWait cancelled failed => rfl

/-- While `race()` awaits a `gather()`, that call has not ended. -/
theorem afterLosersGather_eq_losersGather {tasks : List ι} {winner other : ι}
    {state : FutureState ε α} {pending rest : List ι} {gather awaited : Gather.Pc ε α}
    (awaits
      : afterLosersGather tasks winner state pending gather
        = .losersGather other rest awaited)
    : other = winner ∧ rest = pending ∧ awaited = gather := by
  cases gather with
  | exited outcome => cases outcome <;> simp [afterLosersGather] at awaits
  | firstWait => simpa [afterLosersGather, eq_comm] using awaits
  | loopWait cancelled failed => simpa [afterLosersGather, eq_comm] using awaits

/-- `race()` is neither in its own wait nor in its `except` branch once it has a winner. -/
theorem afterLosersGather_ne {tasks : List ι} {winner : ι} {state : FutureState ε α}
    {pending : List ι} {gather : Gather.Pc ε α}
    : afterLosersGather tasks winner state pending gather ≠ .firstWait
      ∧ ∀ other, afterLosersGather tasks winner state pending gather ≠ .cancelledGather other := by
  cases gather with
  | exited outcome => cases outcome <;> simp [afterLosersGather]
  | firstWait => simp [afterLosersGather]
  | loopWait cancelled failed => simp [afterLosersGather]

/-- The collection goes on under every step that delivers no cancellation. -/
theorem step_collecting {tasks : List ι} {winner : ι} {value : α} {pending : List ι}
    {state next : State ι ε α} {event : Event ι ε α}
    (collecting : Collecting tasks winner value pending state)
    (uncancelled : ∀ message, event ≠ .cancelCaller message)
    (stepped : step state event = some next)
    : Collecting tasks winner value pending next := by
  obtain ⟨tasksEq, winnerEq, others, gather, agrees, awaits⟩ := collecting
  cases move_of_step stepped with
  | cancelsWait here => exact (uncancelled _ rfl).elim
  | cancelsGather resumed => exact (uncancelled _ rfl).elim
  | completes completed =>
      refine ⟨tasksEq, ?_, ?_, gather, agrees.complete completed, awaits⟩
      · rw [← winnerEq]
        exact complete_of_done completed (by simp [winnerEq])
      · intro other member absent
        have done := others other member absent
        have kept := complete_of_done completed done
        simpa only [kept] using done
  | selects here doneSet pendingSet =>
      exact (afterLosersGather_ne.1 (awaits.symm.trans here)).elim
  | returnsGather waiting ready resumed =>
      cases current : state.pc with
      | firstWait => simp [current, Pc.gatherWait] at waiting
      | exited outcome => simp [current, Pc.gatherWait] at waiting
      | cancelledGather other =>
          exact (afterLosersGather_ne.2 other (awaits.symm.trans current)).elim
      | losersGather other rest awaited =>
          obtain ⟨rfl, rfl, rfl⟩ := afterLosersGather_eq_losersGather (awaits.symm.trans current)
          simp only [current, Pc.gatherWait, Option.map_eq_some_iff, Prod.mk.injEq] at waiting
          obtain ⟨condition, suspended, rfl, rfl⟩ := waiting
          simp only [State.resumeGather, current, Option.some.injEq] at resumed
          obtain rfl := resumed
          refine ⟨tasksEq, winnerEq, others, _,
            Gather.resume_returned_agrees agrees suspended ready, ?_⟩
          simp only [tasksEq, winnerEq]

/-- The collection goes on over every run that delivers no cancellation. -/
theorem run_collecting {tasks : List ι} {winner : ι} {value : α} {pending : List ι}
    {state final : State ι ε α} {events : List (Event ι ε α)}
    (collecting : Collecting tasks winner value pending state)
    (uncancelled : ∀ message, .cancelCaller message ∉ events)
    (reached : Transition.run step state events = some final)
    : Collecting tasks winner value pending final :=
  Transition.run_preserves_of_mem
    (fun _ _ member _ collecting => step_collecting collecting
      (fun message same => uncancelled message (same ▸ member)))
    collecting reached

/-- A collection that has ended left every task done. -/
theorem Collecting.done_of_exited {tasks : List ι} {winner : ι} {value : α}
    {pending : List ι} {state : State ι ε α} {outcome : Outcome ε (Nat × α)}
    (collecting : Collecting tasks winner value pending state)
    (exited : state.pc = .exited outcome)
    : ∀ task ∈ tasks, (state.table task).done = true := by
  obtain ⟨gather, agrees, awaits⟩ := collecting.follows
  intro task member
  by_cases loser : task ∈ pending
  · cases gather with
    | exited ended => exact agrees.1 task loser
    | firstWait => simp [awaits, afterLosersGather] at exited
    | loopWait cancelled failed => simp [awaits, afterLosersGather] at exited
  · exact collecting.others task member loser

/-- Nothing but a cancellation of the caller can happen any more. -/
def Settled (state : State ι ε α) : Prop :=
  ∀ event, (∃ message, event = .cancelCaller message) ∨ step state event = none

/-- A settled state has no pending task. -/
theorem Settled.done {state : State ι ε α} (settled : Settled state) (task : ι)
    : (state.table task).done = true := by
  rcases settled (.complete task .cancelled) with ⟨message, impossible⟩ | blocked
  · cases impossible
  · by_contra notDone
    simp [step, complete, notDone] at blocked

/-- A settled collection has ended, as the call of `gather()` told it to. -/
theorem Collecting.exited_of_settled {tasks : List ι} {winner : ι} {value : α}
    {pending : List ι} {state : State ι ε α}
    (collecting : Collecting tasks winner value pending state) (settled : Settled state)
    : ∃ ended,
        Gather.OutcomeLaw False (pending.map state.table) ended
        ∧ state.pc = afterLosersGather tasks winner (.success value) pending (.exited ended) := by
  obtain ⟨gather, agrees, awaits⟩ := collecting.follows
  cases suspended : gather.returnWhen with
  | none =>
      cases gather with
      | exited ended => exact ⟨ended, agrees.2, awaits⟩
      | firstWait => simp [Gather.Pc.returnWhen] at suspended
      | loopWait cancelled failed => simp [Gather.Pc.returnWhen] at suspended
  | some returnWhen =>
      have ready : waitReady pending state.table returnWhen = true :=
        Gather.ready_of_done suspended (fun task _ => settled.done task)
      rw [afterLosersGather_waiting suspended] at awaits
      rcases settled .gatherReturns with ⟨message, impossible⟩ | blocked
      · cases impossible
      · simp [step, awaits, Pc.gatherWait, suspended, ready, State.resumeGather] at blocked

-----------------------------------------------------------------------------------------
-- The outcome of a race whose winner succeeded
-----------------------------------------------------------------------------------------

/-- A run of `race()` whose caller is never cancelled: from the call to the return of the first
wait, which leads from `first` to `second`, and on until nothing more can happen. The
selected task succeeded, and every task still pending at the return ends cancelled.
-/
structure WinnerRun (tasks : List ι) (table : TaskTable ι ε α)
    (before after : List (Event ι ε α)) (first second final : State ι ε α) (winner : ι)
    (value : α)
    : Prop where
  nonempty : tasks ≠ []
  distinct : tasks.Nodup
  uncancelled : ∀ message, .cancelCaller message ∉ before ++ after
  waited : Transition.run step (.initial tasks table) before = some first
  selected
    : ∃ done pending, step first (.firstReturns (winner :: done) pending) = some second
  succeeded : first.table winner = .success value
  collected : Transition.run step second after = some final
  losersCancelled : ∀ task ∈ pendingTasks tasks first.table, final.table task = .cancelled
  settled : Settled final

/-- `race()` returns the selected awaitable's index and result; it was done when the first
wait returned, and every awaitable is done when `race()` ends.
-/
def DeliversWinner (tasks : List ι) (after : List (Event ι ε α))
    (first second final : State ι ε α) (winner : ι) (value : α)
    : Prop :=
  final.pc = .exited (.returned (tasks.idxOf winner, value))
  ∧ (first.table winner).done = true
  ∧ ∀ visited state outcome,
      visited.IsPrefix after
      → Transition.run step second visited = some state
      → state.pc = .exited outcome
      → ∀ task ∈ tasks, (state.table task).done = true

/-- A call keeps the tasks it was started on. -/
theorem step_tasks {state next : State ι ε α} {event : Event ι ε α}
    (stepped : step state event = some next)
    : next.tasks = state.tasks := by
  have kept {result : WaitResume} (resumed : state.resumeGather result = some next)
      : next.tasks = state.tasks := by
    unfold State.resumeGather at resumed
    split at resumed
    · exact Option.some.inj resumed ▸ rfl
    · exact Option.some.inj resumed ▸ rfl
    · contradiction
    · contradiction
  cases move_of_step stepped with
  | completes completed => rfl
  | cancelsWait here => rfl
  | selects here doneSet pendingSet => rfl
  | cancelsGather resumed => exact kept resumed
  | returnsGather waiting ready resumed => exact kept resumed

/-- `race()` delivers a successful winner exactly when every awaitable is already done at the
return of its first wait. With losers to collect, their cancellation ends the race.
-/
theorem race_delivers_iff {tasks : List ι} {table : TaskTable ι ε α}
    {before after : List (Event ι ε α)} {first second final : State ι ε α} {winner : ι}
    {value : α}
    (winnerRun : WinnerRun tasks table before after first second final winner value)
    : DeliversWinner tasks after first second final winner value
      ↔ ∀ task ∈ tasks, (first.table task).done = true := by
  have tasksEq : first.tasks = tasks :=
    Transition.run_preserves (P := fun state => state.tasks = tasks)
      (fun _ _ _ same stepped => (step_tasks stepped).trans same) rfl winnerRun.waited
  obtain ⟨done, pending, selected⟩ := winnerRun.selected
  obtain ⟨sets, _, start⟩ := collecting_of_firstReturns selected winnerRun.succeeded
  rw [tasksEq] at sets start
  have uncancelled : ∀ message, .cancelCaller message ∉ after := fun message member =>
    winnerRun.uncancelled message (List.mem_append_right before member)
  have collecting := run_collecting start uncancelled winnerRun.collected
  obtain ⟨ended, law, exited⟩ := collecting.exited_of_settled winnerRun.settled
  have cancelled : ∀ task ∈ pending, final.table task = .cancelled := fun task member =>
    winnerRun.losersCancelled task (sets.mem_iff.mp member)
  have noException : ∀ error, .exception error ∉ pending.map final.table := by
    intro error member
    obtain ⟨task, inPending, found⟩ := List.mem_map.mp member
    simp [cancelled task inPending] at found
  constructor
  · rintro ⟨returned, _, _⟩ task member
    by_contra notDone
    have loser : task ∈ pending := by
      rw [sets.mem_iff, pendingTasks, List.mem_filter]
      exact ⟨member, by simpa using notDone⟩
    have raised := law.cancelled noException
      (Or.inr (List.mem_map.mpr ⟨task, loser, cancelled task loser⟩))
    rw [exited, raised] at returned
    simp [afterLosersGather] at returned
  · intro allDone
    have empty : pending = [] := by
      rw [← List.perm_nil]
      apply sets.trans
      rw [List.perm_nil, pendingTasks, List.filter_eq_nil_iff]
      intro task member
      simp [allDone task member]
    subst empty
    obtain ⟨values, rfl, _⟩ := law.succeeded noException not_false (by simp)
    refine ⟨exited, by simp [winnerRun.succeeded], ?_⟩
    intro visited state outcome earlier reached ended
    have inAfter : ∀ message, .cancelCaller message ∉ visited := fun message member =>
      uncancelled message (earlier.subset member)
    exact (run_collecting start inAfter reached).done_of_exited ended

/-- A state whose tasks are all done and whose call has ended is settled. -/
theorem settled_of_exited {state : State ι ε α} {outcome : Outcome ε (Nat × α)}
    (done : ∀ task, (state.table task).done = true) (exited : state.pc = .exited outcome)
    : Settled state := by
  intro event
  cases event with
  | complete task ended => simp [step, complete, done task]
  | cancelCaller message => exact Or.inl ⟨message, rfl⟩
  | firstReturns returned pending => simp [step, exited]
  | gatherReturns => simp [step, exited, Pc.gatherWait]

/-- Both tasks are done when the first wait returns, and the race delivers. -/
theorem race_delivers_bothDone
    : ∃ (before : List (Event (Fin 2) String Nat)) (first second : State (Fin 2) String Nat),
        WinnerRun [0, 1] (fun _ => .pending) before [] first second second 1 7
        ∧ DeliversWinner [0, 1] [] first second second 1 7 := by
  have winnerRun : WinnerRun [0, 1] (fun _ => .pending)
      [.complete 0 (.exception "boom"), .complete (1 : Fin 2) (.success 7)] []
      ({ State.initial [0, 1] (fun _ => .pending) with
        table := Function.update (Function.update (fun _ => .pending) 0 (.exception "boom"))
          1 (.success 7) } : State (Fin 2) String Nat)
      _ _ 1 7 := {
    nonempty := by simp
    distinct := by decide
    uncancelled := by simp
    waited := rfl
    selected := ⟨[0], [], rfl⟩
    succeeded := rfl
    collected := rfl
    losersCancelled := by decide
    settled := settled_of_exited (by decide) rfl
  }
  exact ⟨_, _, _, winnerRun, (race_delivers_iff winnerRun).mpr (by decide)⟩

/-- One task has a result when the first wait returns and the other one is cancelled: the race
ends with the `CancelledError` that `gather()` raises for the loser.
-/
theorem race_loses_winner
    : ∃ (before after : List (Event (Fin 2) String Nat))
        (first second final : State (Fin 2) String Nat),
        WinnerRun [0, 1] (fun _ => .pending) before after first second final 0 7
        ∧ final.pc = .exited (.raised .cancelledError)
        ∧ ¬DeliversWinner [0, 1] after first second final 0 7 := by
  have winnerRun : WinnerRun [0, 1] (fun _ => .pending)
      [.complete (0 : Fin 2) (.success 7)]
      [.complete 1 .cancelled, .gatherReturns]
      ({ State.initial [0, 1] (fun _ => .pending) with
        table := Function.update (fun _ => .pending) 0 (.success 7) }
        : State (Fin 2) String Nat)
      _ _ 0 7 := {
    nonempty := by simp
    distinct := by decide
    uncancelled := by simp
    waited := rfl
    selected := ⟨[], [1], rfl⟩
    succeeded := rfl
    collected := rfl
    losersCancelled := by decide
    settled := settled_of_exited (by decide) rfl
  }
  refine ⟨_, _, _, _, _, winnerRun, rfl, fun delivers => ?_⟩
  cases delivers.1

end Aiodrive.Race
