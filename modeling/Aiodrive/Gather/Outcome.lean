import Aiodrive.Gather.Model

/-! The outcome law of `gather()`: what its caller gets is decided by how the tasks ended and
by whether the caller was cancelled, whatever the order in which these happened.
-/

namespace Aiodrive.Gather

variable {ι ε α : Type*}

/-- What `gather()` owes its caller, given the final states of its tasks in argument order and
whether a cancellation was delivered to the caller.
-/
structure OutcomeLaw (delivered : Prop) (states : List (FutureState ε α))
    (outcome : Outcome ε (List α))
    : Prop where
  failed
    : (∃ error, .exception error ∈ states)
      → outcome = .raised (.group (states.filterMap FutureState.exception?))
  cancelled
    : (∀ error, .exception error ∉ states)
      → delivered ∨ .cancelled ∈ states
      → outcome = .raised .cancelledError
  succeeded
    : (∀ error, .exception error ∉ states)
      → ¬delivered
      → .cancelled ∉ states
      → ∃ values, outcome = .returned values ∧ states = values.map .success

/-- Some state is an exception exactly when collecting the exceptions finds one. -/
theorem filterMap_exception_ne_nil_iff {states : List (FutureState ε α)}
    : states.filterMap FutureState.exception? ≠ []
      ↔ ∃ error, .exception error ∈ states := by
  constructor
  · intro nonempty
    obtain ⟨error, member⟩ := List.exists_mem_of_ne_nil _ nonempty
    obtain ⟨state, inStates, found⟩ := List.mem_filterMap.mp member
    cases state <;> simp only [FutureState.exception?, reduceCtorEq, Option.some.injEq] at found
    exact ⟨_, inStates⟩
  · rintro ⟨error, member⟩
    exact List.ne_nil_of_mem (List.mem_filterMap.mpr ⟨_, member, rfl⟩)

/-- States that all succeeded are the image of their collected results, by induction. -/
theorem eq_map_success {states : List (FutureState ε α)}
    (succeeded : ∀ state ∈ states, ∃ value, state = .success value)
    : states = (states.filterMap FutureState.result?).map .success := by
  induction states with
  | nil => rfl
  | cons state rest ih =>
      obtain ⟨value, rfl⟩ := succeeded state (by simp)
      simp only [FutureState.result?, List.filterMap_cons, List.map_cons]
      exact congrArg _ (ih (fun other member => succeeded other (by simp [member])))

/-- The end of `gather()` obeys the law once every task is done and `cancelled` records the
deliveries.
-/
theorem finish_law {tasks : List ι} {table : TaskTable ι ε α} {cancelled : Bool}
    {delivered : Prop} (done : ∀ task ∈ tasks, (table task).done = true)
    (recorded : cancelled = true ↔ delivered)
    : OutcomeLaw delivered (tasks.map table) (finish tasks table cancelled) := by
  have collected : tasks.filterMap (fun task => (table task).exception?)
      = (tasks.map table).filterMap FutureState.exception? := by
    rw [List.filterMap_map]
    rfl
  have anyCancelled : tasks.any (fun task => (table task).isCancelled) = true
      ↔ .cancelled ∈ tasks.map table := by
    simp only [List.any_eq_true, List.mem_map]
    refine exists_congr (fun task => and_congr_right (fun _ => ?_))
    cases table task <;> simp [FutureState.isCancelled]
  have noException (none : ∀ error, .exception error ∉ tasks.map table)
      : (tasks.map table).filterMap FutureState.exception? = [] := by
    by_contra nonempty
    obtain ⟨error, member⟩ := filterMap_exception_ne_nil_iff.mp nonempty
    exact none error member
  refine ⟨?_, ?_, ?_⟩
  · intro failed
    have nonempty := filterMap_exception_ne_nil_iff.mpr failed
    simp only [finish, collected]
    rw [if_pos (by rwa [Bool.not_eq_true', List.isEmpty_eq_false_iff])]
  · intro none reason
    simp only [finish, collected, noException none, List.isEmpty_nil, Bool.not_true,
      Bool.false_eq_true, if_false]
    rw [if_pos]
    simpa only [Bool.or_eq_true, recorded, anyCancelled] using reason
  · intro none undelivered noCancelled
    have succeeded : ∀ state ∈ tasks.map table, ∃ value, state = .success value := by
      intro state member
      obtain ⟨task, inTasks, rfl⟩ := List.mem_map.mp member
      refine FutureState.success_of_done (done task inTasks) ?_ ?_
      · cases found : table task <;> simp only [FutureState.exception?]
        exact (none _ (found ▸ member)).elim
      · cases found : table task <;> simp only [FutureState.isCancelled]
        exact (noCancelled (found ▸ member)).elim
    refine ⟨(tasks.map table).filterMap FutureState.result?, ?_, eq_map_success succeeded⟩
    simp only [finish, collected, noException none, List.isEmpty_nil, Bool.not_true,
      Bool.false_eq_true, if_false]
    rw [if_neg (by simpa only [Bool.or_eq_true, recorded, anyCancelled, not_or]
      using ⟨undelivered, noCancelled⟩), List.filterMap_map]
    rfl

-----------------------------------------------------------------------------------------
-- The local flags record what was delivered
-----------------------------------------------------------------------------------------

/-- `delivered` is what the flag `cancelled` records, and an ended call obeyed the law. -/
def Pc.Agrees (delivered : Prop) (tasks : List ι) (table : TaskTable ι ε α)
    : Pc ε α → Prop
  | .firstWait => ¬delivered
  | .loopWait cancelled _ => cancelled = true ↔ delivered
  | .exited outcome =>
      (∀ task ∈ tasks, (table task).done = true) ∧ OutcomeLaw delivered (tasks.map table) outcome

/-- Before its first suspension `gather()` has seen no cancellation. -/
theorem start_agrees (sensitive : Bool) (tasks : List ι) (table : TaskTable ι ε α)
    : (start sensitive tasks : Pc ε α).Agrees False tasks table := by
  unfold start
  split
  · rename_i empty
    obtain rfl := List.isEmpty_iff.mp empty
    exact ⟨by simp, by simp, by simp, fun _ _ _ => ⟨[], rfl, rfl⟩⟩
  · split <;> simp [Pc.Agrees]

/-- A delivered cancellation is recorded, whatever `gather()` was waiting for. -/
theorem resume_cancelled_agrees {tasks : List ι} {table : TaskTable ι ε α} {pc : Pc ε α}
    {returnWhen : ReturnWhen} (waiting : pc.returnWhen = some returnWhen) (message : Option String)
    : (resume tasks table pc (.cancelledError message)).1.Agrees True tasks table := by
  cases pc with
  | firstWait => simp [resume, Pc.Agrees]
  | loopWait cancelled failed => cases failed <;> simp [resume, Pc.Agrees]
  | exited outcome => simp [Pc.returnWhen] at waiting

/-- A wait that returns on its condition keeps the record, and ends a call only by the law. -/
theorem resume_returned_agrees {delivered : Prop} {tasks : List ι}
    {table : TaskTable ι ε α} {pc : Pc ε α} {returnWhen : ReturnWhen}
    (agrees : pc.Agrees delivered tasks table)
    (waiting : pc.returnWhen = some returnWhen)
    (ready : waitReady tasks table returnWhen = true)
    : (resume tasks table pc .returned).1.Agrees delivered tasks table := by
  cases pc with
  | firstWait => simpa [resume, Pc.Agrees] using agrees
  | loopWait cancelled failed =>
      obtain rfl := Option.some.inj waiting
      have done := waitReady_allCompleted_iff.mp ready
      exact ⟨done, finish_law done agrees⟩
  | exited outcome => simp [Pc.returnWhen] at waiting

/-- A completing task changes nothing that an ended call has read. -/
theorem Pc.Agrees.complete [DecidableEq ι] {delivered : Prop} {tasks : List ι}
    {table next : TaskTable ι ε α} {pc : Pc ε α} {task : ι} {state : FutureState ε α}
    (agrees : pc.Agrees delivered tasks table)
    (completed : Aiodrive.complete table task state = some next)
    : pc.Agrees delivered tasks next := by
  cases pc with
  | firstWait => exact agrees
  | loopWait cancelled failed => exact agrees
  | exited outcome =>
      obtain ⟨done, law⟩ := agrees
      have kept : ∀ other ∈ tasks, next other = table other :=
        fun other member => complete_of_done completed (done other member)
      refine ⟨fun other member => kept other member ▸ done other member, ?_⟩
      rwa [List.map_congr_left kept]

/-- Some event of the schedule delivers a cancellation to the caller. -/
def Delivered (events : List (Event ι ε α)) : Prop :=
  ∃ message, Event.cancelCaller message ∈ events

/-- One step keeps the agreement between the deliveries so far and the flags. -/
theorem step_agrees [DecidableEq ι] {past : List (Event ι ε α)}
    {state next : State ι ε α} {event : Event ι ε α}
    (agrees : state.pc.Agrees (Delivered past) state.tasks state.table)
    (stepped : step state event = some next)
    : next.pc.Agrees (Delivered (past ++ [event])) next.tasks next.table := by
  cases event with
  | complete task ended =>
      obtain ⟨table, completed, rfl⟩ := Option.map_eq_some_iff.mp stepped
      simpa [Delivered] using agrees.complete completed
  | cancelCaller message =>
      obtain ⟨returnWhen, waiting, rfl⟩ := Option.map_eq_some_iff.mp stepped
      have here : Delivered (past ++ [Event.cancelCaller message]) := ⟨message, by simp⟩
      simpa only [here, State.resumeWith]
        using resume_cancelled_agrees waiting message
  | waitReturns =>
      obtain ⟨returnWhen, waiting, stepped⟩ := Option.bind_eq_some_iff.mp stepped
      split at stepped
      · rename_i ready
        obtain rfl := Option.some.inj stepped
        simpa [Delivered, State.resumeWith] using resume_returned_agrees agrees waiting ready
      · contradiction

/-- Every run of `gather()` keeps the agreement, by induction on the schedule. -/
theorem run_agrees [DecidableEq ι] {sensitive : Bool} {tasks : List ι}
    {table : TaskTable ι ε α} {events : List (Event ι ε α)} {final : State ι ε α}
    (reached : Transition.run step (.initial sensitive tasks table) events = some final)
    : final.tasks = tasks
      ∧ final.pc.Agrees (Delivered events) final.tasks final.table := by
  refine Transition.run_preserves_history
    (P := fun past state =>
      state.tasks = tasks ∧ state.pc.Agrees (Delivered past) state.tasks state.table)
    ?_ ⟨rfl, ?_⟩ reached
  · intro past state event next holds stepped
    refine ⟨?_, step_agrees holds.2 stepped⟩
    rw [← holds.1]
    exact step_tasks stepped
  · simpa only [Delivered, List.not_mem_nil, exists_const, State.initial]
      using start_agrees sensitive tasks table

/-- However the tasks of a `gather()` call end and however often its caller is cancelled, the
call ends only with every task done and by the outcome law.
-/
theorem gather_outcome [DecidableEq ι] {sensitive : Bool} {tasks : List ι}
    {table : TaskTable ι ε α} {events : List (Event ι ε α)} {final : State ι ε α}
    {outcome : Outcome ε (List α)}
    (reached : Transition.run step (.initial sensitive tasks table) events = some final)
    (exited : final.pc = .exited outcome)
    : (∀ task ∈ tasks, (final.table task).done = true)
      ∧ OutcomeLaw (∃ message, Event.cancelCaller message ∈ events)
          (tasks.map final.table) outcome := by
  obtain ⟨rfl, agrees⟩ := run_agrees reached
  rwa [exited] at agrees

/-- A cancellation before a failure does not hide the failure. -/
theorem gather_outcome_cancelledThenFailed
    : ∃ (events : List (Event (Fin 2) String Nat)) (final : State (Fin 2) String Nat),
        Transition.run step (.initial true [0, 1] (fun _ => .pending)) events = some final
        ∧ final.pc = .exited (.raised (.group ["boom"]))
        ∧ (∀ task ∈ [0, 1], (final.table task).done = true)
        ∧ OutcomeLaw (∃ message, Event.cancelCaller message ∈ events)
            ([0, 1].map final.table) (.raised (.group ["boom"])) := by
  have reached
      : Transition.run step
          (.initial true [0, 1] (fun _ => .pending) : State (Fin 2) String Nat)
          [.cancelCaller none, .complete 1 .cancelled, .complete 0 (.exception "boom"),
            .waitReturns]
        = some _ :=
    rfl
  exact ⟨_, _, reached, rfl, gather_outcome reached rfl⟩

end Aiodrive.Gather
