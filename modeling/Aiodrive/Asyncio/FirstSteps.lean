import Aiodrive.Asyncio.QueueOrder

/-! Tasks that a caller creates before it first suspends run their first step before the caller
resumes, so before it can ask any of them to cancel.
-/

namespace Aiodrive.ReadyQueue

variable {σ κ τ : Type*} [DecidableEq τ]

-----------------------------------------------------------------------------------------
-- The queue is never blocked, and a first step moves up with every handle that is run
-----------------------------------------------------------------------------------------

/-- The first handle of the queue can be run. -/
theorem Inv.not_blocked {program : Program σ κ τ} {tasks : List τ} {state : State σ τ}
    (lawful : program.Lawful) (inv : Inv program tasks state) (nonempty : state.ready ≠ [])
    : ∃ event next, event.runsHandle = true ∧ step program state event = some next := by
  cases head : state.ready with
  | nil => exact (nonempty head).elim
  | cons handle ready =>
      cases handle with
      | other => exact ⟨.run, _, rfl, by simp only [step, head]; rfl⟩
      | firstStep task =>
          refine ⟨.run, { state with ready, started := state.started ++ [task] }, rfl, ?_⟩
          simp [step, head, inv.unrequested head]
      | wakeup =>
          have delivered : state.delivery ≠ none := fun undelivered =>
            inv.no_wakeup undelivered (head ▸ List.mem_cons_self)
          have suspended : program.suspended state.caller = true := by
            apply inv.waits.mp
            intro outside
            simp [State.delivery, outside] at delivered
          obtain ⟨result, delivery⟩ := Option.ne_none_iff_exists'.mp delivered
          obtain ⟨event, caller, resumes, stepped⟩
              : ∃ event caller,
                  program.effect event = .resumed result
                  ∧ program.step state.caller event = some caller := by
            cases result with
            | cancelledError message => exact lawful.cancelled_enabled message suspended
            | returned =>
                have resolved : state.waiter = some .resolved := by
                  unfold State.delivery at delivery
                  split at delivery <;> simp_all
                exact lawful.returned_enabled suspended (inv.resolved resolved)
          refine ⟨.resume event, .suspend program ready state.started caller none, rfl, ?_⟩
          simp [step, head, delivery, resumes, stepped]

/-- The number of handles of the queue that a schedule runs. -/
def handlesRun (events : List (Event κ)) : Nat :=
  events.countP Event.runsHandle

/-- A task has run its first step exactly when that is not in the queue. -/
theorem Inv.started_iff {program : Program σ κ τ} {tasks : List τ} {state : State σ τ}
    {task : τ} (inv : Inv program tasks state) (member : task ∈ tasks)
    : state.started.count task = 1 ↔ .firstStep task ∉ state.ready := by
  have accounted := inv.accounted task member
  rw [← List.count_eq_zero]
  omega

/-- An event that runs no handle only adds callbacks other than first steps to the queue. -/
theorem step_ready {program : Program σ κ τ} {state next : State σ τ} {event : Event κ}
    (runsNone : event.runsHandle = false) (stepped : step program state event = some next)
    : ∃ added, next.ready = state.ready ++ added ∧ ∀ task, .firstStep task ∉ added := by
  cases move_of_step stepped with
  | starts _ | skips _ _ | runsOther _ | resumes _ _ _ => contradiction
  | acts _ _ => exact suspend_ready program _ _ _ _
  | completes _ _ | cancelsLate _ _ => exact ⟨[], (List.append_nil state.ready).symm, by simp⟩
  | resolves _ _ | cancelsWait _ => exact ⟨[.wakeup], rfl, by simp⟩
  | adds => exact ⟨[.other], rfl, by simp⟩

/-- Running a handle that does not resume the caller takes it off the queue, and is no step of the
caller.
-/
theorem step_run {program : Program σ κ τ} {state next : State σ τ}
    (stepped : step program state .run = some next)
    : (∃ handle, state.ready = handle :: next.ready) ∧ next.caller = state.caller := by
  cases move_of_step stepped with
  | starts head | skips head _ | runsOther head => exact ⟨⟨_, head⟩, rfl⟩

/-- No first step is queued before the caller resumes, or after. -/
theorem Inv.no_firstStep {program : Program σ κ τ} {tasks : List τ} {state next : State σ τ}
    {event : κ} (inv : Inv program tasks state)
    (stepped : step program state (.resume event) = some next)
    : ∀ task, .firstStep task ∉ state.ready ∧ .firstStep task ∉ next.ready := by
  cases move_of_step stepped with
  | @resumes _ ready _ caller head _ _ =>
      obtain ⟨added, same, addedNone⟩ := suspend_ready program ready state.started caller none
      obtain ⟨_, noFirstStep⟩ := inv.behind_wakeup head
      intro task
      constructor
      · rw [head]
        simpa using noFirstStep task
      · rw [same]
        simpa using ⟨noFirstStep task, addedNone task⟩

/-- No request is made by a step that is taken while a first step is queued. -/
theorem Inv.requests_step {program : Program σ κ τ} {tasks : List τ} {state next : State σ τ}
    {event : Event κ} {task : τ} (lawful : program.Lawful) (inv : Inv program tasks state)
    (queued : .firstStep task ∈ state.ready) (stepped : step program state event = some next)
    : program.requests next.caller = [] := by
  cases runs : event.runsHandle with
  | false =>
      obtain ⟨added, same, _⟩ := step_ready runs stepped
      have stillQueued : .firstStep task ∈ next.ready := same ▸ List.mem_append_left _ queued
      exact ((step_inv lawful inv stepped).unstarted task stillQueued).1
  | true =>
      rcases Event.eq_of_runsHandle runs with rfl | ⟨resumption, rfl⟩
      · rw [(step_run stepped).2]
        exact (inv.unstarted task queued).1
      · exact ((inv.no_firstStep stepped task).1 queued).elim

/-- The handles that stand before a first step in the queue, and those run so far, are fewer
than `total`.
-/
def Advances (tasks : List τ) (total : Nat) (past : List (Event κ)) (state : State σ τ) : Prop :=
  ∀ task ∈ tasks,
    .firstStep task ∈ state.ready
    → state.ready.idxOf (.firstStep task) + handlesRun past < total

/-- Every step advances the first steps that stay in the queue. -/
theorem step_advances {program : Program σ κ τ} {tasks : List τ} {total : Nat}
    {past : List (Event κ)} {state next : State σ τ} {event : Event κ}
    (inv : Inv program tasks state) (advances : Advances tasks total past state)
    (stepped : step program state event = some next)
    : Advances tasks total (past ++ [event]) next := by
  intro task member queued
  cases runs : event.runsHandle with
  | false =>
      obtain ⟨added, same, noFirstStep⟩ := step_ready runs stepped
      have before : .firstStep task ∈ state.ready := by
        rw [same] at queued
        exact (List.mem_append.mp queued).resolve_right (noFirstStep task)
      rw [same, List.idxOf_append_of_mem before]
      simpa [handlesRun, runs] using advances task member before
  | true =>
      rcases Event.eq_of_runsHandle runs with rfl | ⟨resumption, rfl⟩
      · obtain ⟨⟨handle, head⟩, _⟩ := step_run stepped
        have accounted := inv.accounted task member
        have different : handle ≠ .firstStep task := by
          intro same
          have positive := List.count_pos_iff.mpr queued
          rw [head, same, List.count_cons_self] at accounted
          omega
        have before := advances task member (head ▸ List.mem_cons_of_mem _ queued)
        rw [head, List.idxOf_cons_ne _ different] at before
        simp only [handlesRun, List.countP_append, List.countP_singleton, runs, if_true]
        simp only [handlesRun] at before
        omega
      · exact ((inv.no_firstStep stepped task).2 queued).elim

/-- When the caller first suspends, every first step is near the head of the queue. -/
theorem initial_advances (program : Program σ κ τ) (waiting : Nat) (tasks : List τ)
    (caller : σ) (pendingCancel : Option (Option String))
    : Advances tasks (waiting + tasks.length) ([] : List (Event κ))
        (.initial program waiting tasks caller pendingCancel) := by
  intro task member _
  obtain ⟨added, same, _⟩ := suspend_ready program
    (.replicate waiting .other ++ tasks.map .firstStep) [] caller pendingCancel
  have queued : .firstStep task ∈ List.replicate waiting .other ++ tasks.map Handle.firstStep :=
    List.mem_append_right _ (List.mem_map_of_mem member)
  have inside := List.idxOf_lt_length_of_mem queued
  rw [List.length_append, List.length_replicate, List.length_map] at inside
  rw [State.initial, same, List.idxOf_append_of_mem queued]
  exact inside

-----------------------------------------------------------------------------------------
-- Runs
-----------------------------------------------------------------------------------------

/-- What is guaranteed to the tasks in a state that the events lead to. Each runs its first step
at most once, and has run it before a request to cancel it is made and when the caller is not
suspended. The queue is never blocked, and once it has run all that was in it before and all
first steps, every task has run its first step.
-/
structure StartsFirst (program : Program σ κ τ) (waiting : Nat) (tasks : List τ)
    (events : List (Event κ)) (state : State σ τ)
    : Prop where
  once : ∀ task ∈ tasks, state.started.count task ≤ 1
  beforeRequest
    : ∀ event next,
        step program state event = some next
        → ∀ request ∈ program.requests next.caller,
            request.task ∈ tasks → state.started.count request.task = 1
  beforeEnd
    : program.suspended state.caller = false → ∀ task ∈ tasks, state.started.count task = 1
  notBlocked
    : state.ready ≠ []
      → ∃ event next, event.runsHandle = true ∧ step program state event = some next
  eventually
    : waiting + tasks.length ≤ handlesRun events → ∀ task ∈ tasks, state.started.count task = 1

/-- In every run from the step in which the caller creates its tasks, they start before the caller
can cancel them.
-/
theorem run_startsFirst {program : Program σ κ τ} {waiting : Nat} {tasks : List τ} {caller : σ}
    {pendingCancel : Option (Option String)} {events : List (Event κ)} {final : State σ τ}
    (lawful : program.Lawful) (distinct : tasks.Nodup)
    (unrequested : program.requests caller = [])
    (suspends : tasks ≠ [] → program.suspended caller = true)
    (reached
      : Transition.run (step program) (.initial program waiting tasks caller pendingCancel)
          events
        = some final)
    : StartsFirst program waiting tasks events final := by
  obtain ⟨inv, advances⟩ := Transition.run_preserves_history
    (P := fun past state =>
      Inv program tasks state ∧ Advances tasks (waiting + tasks.length) past state)
    (fun _ _ _ _ holds stepped =>
      ⟨step_inv lawful holds.1 stepped, step_advances holds.1 holds.2 stepped⟩)
    ⟨initial_inv distinct unrequested suspends, initial_advances _ _ _ _ _⟩ reached
  refine ⟨?_, ?_, ?_, inv.not_blocked lawful, ?_⟩
  · intro task member
    have accounted := inv.accounted task member
    omega
  · intro event next stepped request made member
    rw [inv.started_iff member]
    intro queued
    rw [inv.requests_step lawful queued stepped] at made
    contradiction
  · intro running task member
    rw [inv.started_iff member]
    intro queued
    rw [(inv.unstarted task queued).2] at running
    contradiction
  · intro enough task member
    rw [inv.started_iff member]
    intro queued
    have ahead := advances task member queued
    omega

end Aiodrive.ReadyQueue
