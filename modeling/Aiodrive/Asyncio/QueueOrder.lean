import Aiodrive.Asyncio.ReadyQueue
import Mathlib.Data.List.Count
import Mathlib.Data.List.Nodup

/-! The order of the ready queue, as an invariant of the event loop: the first steps of the tasks
that a caller created stand before the resumption of the caller.
-/

namespace Aiodrive.ReadyQueue

variable {σ κ τ : Type*}

/-- A first step may only come before the resumption of the caller. -/
def Handle.Before (earlier later : Handle τ) : Prop :=
  earlier = .wakeup → ∀ task, later ≠ .firstStep task

/-- A queue without a resumption is in order. -/
theorem pairwise_before_of_no_wakeup {ready : List (Handle τ)} (noWakeup : .wakeup ∉ ready)
    : ready.Pairwise Handle.Before := by
  induction ready with
  | nil => exact .nil
  | cons handle rest ih =>
      simp only [List.mem_cons, not_or] at noWakeup
      exact .cons (fun _ _ same => (noWakeup.1 same.symm).elim) (ih noWakeup.2)

/-- A queue stays in order when a callback that is no first step is added. -/
theorem pairwise_before_append {ready : List (Handle τ)} {handle : Handle τ}
    (ordered : ready.Pairwise Handle.Before) (noFirstStep : ∀ task, handle ≠ .firstStep task)
    : (ready ++ [handle]).Pairwise Handle.Before := by
  refine List.pairwise_append.mpr ⟨ordered, List.pairwise_singleton _ _, ?_⟩
  intro earlier _ later member _ task
  rw [List.mem_singleton.mp member]
  exact noFirstStep task

/-- The events that run a handle. -/
theorem Event.eq_of_runsHandle {event : Event κ} (runs : event.runsHandle = true)
    : event = .run ∨ ∃ resumption, event = .resume resumption := by
  cases event with
  | run => exact Or.inl rfl
  | resume resumption => exact Or.inr ⟨resumption, rfl⟩
  | act _ _ | complete _ | resolve | cancelCaller _ | callSoon => contradiction

/-- The end of a step of the caller can only add the resumption of the caller to the queue. -/
theorem suspend_ready (program : Program σ κ τ) (ready : List (Handle τ)) (started : List τ)
    (caller : σ) (pendingCancel : Option (Option String))
    : ∃ added, (State.suspend program ready started caller pendingCancel).ready = ready ++ added
        ∧ ∀ task, .firstStep task ∉ added := by
  unfold State.suspend
  split
  · exact ⟨[], (List.append_nil ready).symm, by simp⟩
  · exact ⟨[], (List.append_nil ready).symm, by simp⟩
  · exact ⟨[.wakeup], rfl, by simp⟩

variable [DecidableEq τ]

/-- What holds between two steps of the event loop. Each task has run its first step or has it
in the queue; none is there once the caller has resumed; the caller is in the queue exactly when
the future that it waits for is done.
-/
structure Inv (program : Program σ κ τ) (tasks : List τ) (state : State σ τ) : Prop where
  accounted
    : ∀ task ∈ tasks, state.started.count task + state.ready.count (.firstStep task) = 1
  ordered : state.ready.Pairwise Handle.Before
  unstarted
    : ∀ task,
        .firstStep task ∈ state.ready
        → program.requests state.caller = [] ∧ program.suspended state.caller = true
  waits : state.waiter ≠ none ↔ program.suspended state.caller = true
  wakeups : state.ready.count .wakeup = if state.delivery.isSome then 1 else 0
  resolved : state.waiter = some .resolved → program.ready state.caller = true

/-- The end of a step of the caller, which was not in the queue during the step. -/
theorem suspend_inv {program : Program σ κ τ} {tasks started : List τ}
    {ready : List (Handle τ)} {caller : σ} {pendingCancel : Option (Option String)}
    (accounted : ∀ task ∈ tasks, started.count task + ready.count (.firstStep task) = 1)
    (noWakeup : .wakeup ∉ ready)
    (unstarted
      : ∀ task,
          .firstStep task ∈ ready
          → program.requests caller = [] ∧ program.suspended caller = true)
    : Inv program tasks (.suspend program ready started caller pendingCancel) := by
  have none : ready.count .wakeup = 0 := List.count_eq_zero.mpr noWakeup
  have ordered := pairwise_before_of_no_wakeup noWakeup
  unfold State.suspend
  split
  · rename_i running
    exact ⟨accounted, ordered, unstarted, by simp [running], by simp [State.delivery, none],
      by simp⟩
  · rename_i suspended
    exact ⟨accounted, ordered, unstarted, by simp [suspended], by simp [State.delivery, none],
      by simp⟩
  · rename_i message suspended
    refine ⟨?_, pairwise_before_append ordered (by simp), ?_, by simp [suspended],
      by simp [State.delivery, none], by simp⟩
    · intro task member
      simpa using accounted task member
    · intro task member
      exact unstarted task (by simpa using member)

/-- The invariant holds when the caller first suspends, or ends without suspending. -/
theorem initial_inv {program : Program σ κ τ} {waiting : Nat} {tasks : List τ} {caller : σ}
    {pendingCancel : Option (Option String)} (distinct : tasks.Nodup)
    (unrequested : program.requests caller = [])
    (suspends : tasks ≠ [] → program.suspended caller = true)
    : Inv program tasks (.initial program waiting tasks caller pendingCancel) := by
  apply suspend_inv
  · intro task member
    have once : (tasks.map Handle.firstStep).count (.firstStep task) = tasks.count task :=
      List.count_map_of_injective tasks Handle.firstStep (fun _ _ => Handle.firstStep.inj) task
    rw [List.count_append, once, List.count_eq_one_of_mem distinct member]
    simp [List.count_replicate]
  · simp
  · intro task member
    have known : task ∈ tasks := by simpa using member
    exact ⟨unrequested, suspends (List.ne_nil_of_mem known)⟩

-----------------------------------------------------------------------------------------
-- Every step keeps the invariant
-----------------------------------------------------------------------------------------

/-- The resumption of the caller is not queued while the caller does not wait for a done future.
-/
theorem Inv.no_wakeup {program : Program σ κ τ} {tasks : List τ} {state : State σ τ}
    (inv : Inv program tasks state) (undelivered : state.delivery = none)
    : .wakeup ∉ state.ready := by
  apply List.count_eq_zero.mp
  simpa [undelivered] using inv.wakeups

/-- When the caller resumes, no first step is left in the queue, nor another resumption. -/
theorem Inv.behind_wakeup {program : Program σ κ τ} {tasks : List τ} {state : State σ τ}
    {ready : List (Handle τ)} (inv : Inv program tasks state)
    (head : state.ready = .wakeup :: ready)
    : .wakeup ∉ ready ∧ ∀ task, .firstStep task ∉ ready := by
  constructor
  · apply List.count_eq_zero.mp
    have wakeups := inv.wakeups
    rw [head, List.count_cons_self] at wakeups
    split at wakeups <;> omega
  · intro task member
    have ordered := inv.ordered
    rw [head, List.pairwise_cons] at ordered
    exact ordered.1 _ member rfl task rfl

/-- Running a handle at the head of the queue that does not resume the caller. -/
theorem Inv.pop {program : Program σ κ τ} {tasks started : List τ} {state : State σ τ}
    {handle : Handle τ} {ready : List (Handle τ)} (inv : Inv program tasks state)
    (head : state.ready = handle :: ready) (noWakeup : handle ≠ .wakeup)
    (accounted : ∀ task ∈ tasks, started.count task + ready.count (.firstStep task) = 1)
    : Inv program tasks { state with ready, started } := by
  refine ⟨accounted, ?_, ?_, inv.waits, ?_, inv.resolved⟩
  · have ordered := inv.ordered
    rw [head] at ordered
    exact ordered.of_cons
  · intro task member
    exact inv.unstarted task (head ▸ List.mem_cons_of_mem _ member)
  · have wakeups := inv.wakeups
    rw [head, List.count_cons_of_ne noWakeup] at wakeups
    exact wakeups

/-- Nothing has been asked to cancel when a first step is run. -/
theorem Inv.unrequested {program : Program σ κ τ} {tasks : List τ} {state : State σ τ}
    {task : τ} {ready : List (Handle τ)} (inv : Inv program tasks state)
    (head : state.ready = .firstStep task :: ready)
    : program.requests state.caller = [] :=
  (inv.unstarted task (head ▸ List.mem_cons_self)).1

/-- Running a first step moves its task from the queue to the started tasks. -/
theorem Inv.start {program : Program σ κ τ} {tasks : List τ} {state : State σ τ} {task : τ}
    {ready : List (Handle τ)} (inv : Inv program tasks state)
    (head : state.ready = .firstStep task :: ready)
    : Inv program tasks { state with ready, started := state.started ++ [task] } := by
  apply inv.pop head (by simp)
  intro other member
  have accounted := inv.accounted other member
  by_cases same : other = task
  · subst same
    rw [head, List.count_cons_self] at accounted
    rw [List.count_append, List.count_singleton_self]
    omega
  · have different : Handle.firstStep task ≠ .firstStep other := fun equal =>
      same (Handle.firstStep.inj equal).symm
    rw [head, List.count_cons_of_ne different] at accounted
    have absent : [task].count other = 0 := List.count_eq_zero.mpr (by simpa using same)
    rwa [List.count_append, absent]

/-- The caller resumes when all first steps have been run. -/
theorem Inv.resume {program : Program σ κ τ} {tasks : List τ} {state : State σ τ}
    {ready : List (Handle τ)} (caller : σ) (inv : Inv program tasks state)
    (head : state.ready = .wakeup :: ready)
    : Inv program tasks (.suspend program ready state.started caller none) := by
  obtain ⟨noWakeup, noFirstStep⟩ := inv.behind_wakeup head
  apply suspend_inv
  · intro task member
    have accounted := inv.accounted task member
    rwa [head, List.count_cons_of_ne (by simp)] at accounted
  · exact noWakeup
  · intro task member
    exact (noFirstStep task member).elim

/-- The caller acts outside a wait when all first steps have been run. -/
theorem Inv.act {program : Program σ κ τ} {tasks : List τ} {state : State σ τ} (caller : σ)
    (pendingCancel : Option (Option String)) (inv : Inv program tasks state)
    (outside : state.waiter = none)
    : Inv program tasks
        (.suspend program state.ready state.started caller pendingCancel) := by
  have running : ¬program.suspended state.caller = true := fun suspended =>
    inv.waits.mpr suspended outside
  apply suspend_inv inv.accounted
  · exact inv.no_wakeup (by simp [State.delivery, outside])
  · intro task member
    exact (running (inv.unstarted task member).2).elim

/-- A task that ends makes no request and keeps the caller where it is. -/
theorem Inv.complete {program : Program σ κ τ} {tasks : List τ} {state : State σ τ}
    {event : κ} {task : τ} {caller : σ} (lawful : program.Lawful)
    (inv : Inv program tasks state) (ended : program.effect event = .complete task)
    (stepped : program.step state.caller event = some caller)
    : Inv program tasks { state with caller } := by
  obtain ⟨requests, suspended, ready⟩ := lawful.complete_keeps ended stepped
  refine ⟨inv.accounted, inv.ordered, ?_, ?_, inv.wakeups, ?_⟩
  · intro other member
    simpa only [requests, suspended] using inv.unstarted other member
  · simpa only [suspended] using inv.waits
  · exact fun resolved => ready (inv.resolved resolved)

/-- The future that the caller waits for is done: the caller is put at the end of the queue. -/
theorem Inv.wake {program : Program σ κ τ} {tasks : List τ} {state : State σ τ}
    {waiter : Waiter} (inv : Inv program tasks state) (pending : state.waiter = some .pending)
    (done : waiter ≠ .pending) (resolved : waiter = .resolved → program.ready state.caller = true)
    : Inv program tasks
        { state with ready := state.ready ++ [.wakeup], waiter := some waiter } := by
  have noWakeup := List.count_eq_zero.mpr (inv.no_wakeup (by simp [State.delivery, pending]))
  refine ⟨?_, pairwise_before_append inv.ordered (by simp), ?_, ?_, ?_, ?_⟩
  · intro task member
    simpa using inv.accounted task member
  · intro task member
    exact inv.unstarted task (by simpa using member)
  · simpa [pending] using inv.waits
  · simp only [List.count_append, noWakeup, List.count_singleton_self]
    cases waiter with
    | pending => contradiction
    | resolved => cases state.mustCancel <;> simp [State.delivery]
    | cancelled message => simp [State.delivery]
  · intro same
    exact resolved (Option.some.inj same)

/-- A cancellation that comes after the future is done only changes what the caller resumes
with.
-/
theorem Inv.cancelLate {program : Program σ κ τ} {tasks : List τ} {state : State σ τ}
    {waiter : Waiter} (message : Option String) (inv : Inv program tasks state)
    (waits : state.waiter = some waiter) (done : waiter ≠ .pending)
    : Inv program tasks { state with mustCancel := some message } := by
  refine ⟨inv.accounted, inv.ordered, inv.unstarted, inv.waits, ?_, inv.resolved⟩
  have wakeups := inv.wakeups
  cases waiter with
  | pending => contradiction
  | resolved =>
      cases found : state.mustCancel <;> simpa [State.delivery, waits, found] using wakeups
  | cancelled earlier => simpa [State.delivery, waits] using wakeups

/-- Another callback is put at the end of the queue. -/
theorem Inv.add {program : Program σ κ τ} {tasks : List τ} {state : State σ τ}
    (inv : Inv program tasks state)
    : Inv program tasks { state with ready := state.ready ++ [.other] } := by
  refine ⟨?_, pairwise_before_append inv.ordered (by simp), ?_, inv.waits, ?_, inv.resolved⟩
  · intro task member
    simpa using inv.accounted task member
  · intro task member
    exact inv.unstarted task (by simpa using member)
  · have absent : [Handle.other].count (.wakeup : Handle τ) = 0 :=
      List.count_eq_zero.mpr (by simp)
    rw [List.count_append, absent]
    exact inv.wakeups

/-- Every step of the event loop keeps the invariant. -/
theorem step_inv {program : Program σ κ τ} {tasks : List τ} {state next : State σ τ}
    {event : Event κ} (lawful : program.Lawful) (inv : Inv program tasks state)
    (stepped : step program state event = some next)
    : Inv program tasks next := by
  cases move_of_step stepped with
  | starts head => exact inv.start head
  | skips head requested =>
      obtain ⟨request, made, _⟩ := requested
      rw [inv.unrequested head] at made
      contradiction
  | runsOther head =>
      apply inv.pop head (by simp)
      intro task member
      have accounted := inv.accounted task member
      rwa [head, List.count_cons_of_ne (by simp)] at accounted
  | resumes head _ _ => exact inv.resume _ head
  | acts outside _ => exact inv.act _ _ outside
  | completes ended completed => exact inv.complete lawful ended completed
  | resolves pending holds => exact inv.wake pending (by simp) (fun _ => holds)
  | cancelsWait pending => exact inv.wake pending (by simp) (by simp)
  | cancelsLate waits done => exact inv.cancelLate _ waits done
  | adds => exact inv.add

end Aiodrive.ReadyQueue
