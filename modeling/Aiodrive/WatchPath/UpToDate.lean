import Aiodrive.WatchPath.Reports

/-! Whether the reports of `watch_path()` catch up with the file: each event that changes something
leaves a callback scheduled, and each callback that runs brings the last report up to date, unless
nothing is ever reported because the first event was not.
-/

namespace Aiodrive.WatchPath

variable {δ : Type*}

/-- The events passed to `eager_callback()`, in order. -/
def passed (events : List Event) : List WatchPathEvent :=
  events.filterMap (fun event =>
    match event with
    | .passes event => some event
    | .runs _ | .exits => none)

/-- `last_reported_exists` says whether the file exists according to the last of the events. -/
def UpToDate (events : List WatchPathEvent) (state : State) : Prop :=
  ∃ last,
    events.getLast? = some last ∧ state.lastReportedExists = some (last != .delete)

theorem queuedEvent_eagerCallback (options : Options δ) (state : State) (event : WatchPathEvent)
    : (eagerCallback options state event).queuedEvent = some event := by
  cases last : state.lastReportedExists with
  | none => simp [eagerCallback_first options last, State.queue]
  | some exists_ => exact (eagerCallback_cases options last event).frame.1

/-- The queued event is the last one passed. -/
theorem queuedEvent_of_run {options : Options δ} {events : List Event} {final : State}
    (reached : Transition.run (step options) .initial events = some final)
    : final.queuedEvent = (passed events).getLast? := by
  refine Transition.run_preserves_history
    (P := fun past state => state.queuedEvent = (passed past).getLast?)
    (fun past state event next same stepped => ?_) rfl reached
  cases event with
  | passes event =>
      obtain ⟨-, moved⟩ := Option.ite_none_left_eq_some.mp stepped
      obtain rfl := Option.some.inj moved
      simp [passed, queuedEvent_eagerCallback]
  | runs handle =>
      obtain ⟨-, moved⟩ := Option.ite_none_right_eq_some.mp stepped
      obtain rfl := Option.some.inj moved
      simpa [passed, State.runHandle, lateCallback_frame] using same
  | exits =>
      obtain ⟨-, moved⟩ := Option.ite_none_left_eq_some.mp stepped
      obtain rfl := Option.some.inj moved
      simpa [passed] using same

/-- A watcher that has reported, until it is left: a callback is scheduled, or the last report
is up to date with the queued event.
-/
def Current (state : State) : Prop :=
  ∃ event last,
    state.queuedEvent = some event
    ∧ state.lastReportedExists = some last
    ∧ (state.scheduled = [] → last = (event != .delete))

/-- An event passed to a watcher that has reported leaves a callback scheduled, or finds a
deletion of a file that is not reported to exist.
-/
theorem Current.eagerCallback {options : Options δ} {state : State} (current : Current state)
    (event : WatchPathEvent)
    : Current (eagerCallback options state event) := by
  obtain ⟨-, last, -, reported, -⟩ := current
  have eager := eagerCallback_cases options reported event
  obtain ⟨queued, same, -⟩ := eager.frame
  refine ⟨event, last, queued, same.trans reported, ?_⟩
  generalize WatchPath.eagerCallback options state event = next at eager
  cases eager with
  | gone missing deleted => simp [missing, deleted]
  | debounces _ _ => simp [State.schedule]
  | schedules _ _ => simp [State.schedule]

/-- A callback that runs brings the last report up to date. -/
theorem Current.runHandle {state : State} (current : Current state) (handle : Nat)
    : Current (state.runHandle handle) := by
  obtain ⟨event, last, queued, reported, -⟩ := current
  rw [runHandle_eq reported queued]
  exact ⟨event, _, queued, rfl, fun _ => rfl⟩

/-- A watcher that has reported stays current until it is left. -/
theorem step_current {options : Options δ} {state next : State} {event : Event}
    (current : Current state) (stepped : step options state event = some next)
    : next.exited = true ∨ Current next := by
  cases event with
  | passes event =>
      obtain ⟨-, moved⟩ := Option.ite_none_left_eq_some.mp stepped
      exact .inr (Option.some.inj moved ▸ current.eagerCallback event)
  | runs handle =>
      obtain ⟨-, moved⟩ := Option.ite_none_right_eq_some.mp stepped
      exact .inr (Option.some.inj moved ▸ current.runHandle handle)
  | exits =>
      obtain ⟨-, moved⟩ := Option.ite_none_left_eq_some.mp stepped
      exact .inl (Option.some.inj moved ▸ rfl)

/-- What an exited watcher does keeps it exited. -/
theorem exited_of_step {options : Options δ} {state next : State} {event : Event}
    (exited : state.exited = true) (stepped : step options state event = some next)
    : next.exited = true := by
  cases event with
  | passes event => simp [step, exited] at stepped
  | runs handle =>
      obtain ⟨-, moved⟩ := Option.ite_none_right_eq_some.mp stepped
      obtain rfl := Option.some.inj moved
      simpa [State.runHandle, lateCallback_frame] using exited
  | exits => simp [step, exited] at stepped

/-- With `call_immediately`, every watcher whose first event is reported is current until it is
left, by induction on the events.
-/
theorem run_current {options : Options δ} (immediate : options.callImmediately = true)
    {first : WatchPathEvent} (shown : first = .create) {events : List Event} {final : State}
    (reached
      : Transition.run (step options) .initial (.passes first :: events) = some final)
    : final.exited = true ∨ Current final := by
  obtain ⟨second, stepped, tail⟩ := Transition.run_cons_iff.mp reached
  obtain rfl := Option.some.inj stepped
  refine Transition.run_preserves
    (P := fun state => state.exited = true ∨ Current state)
    (fun state event next holds moved => ?_) (.inr ?_) tail
  · rcases holds with exited | current
    · exact .inl (exited_of_step exited moved)
    · exact step_current current moved
  · refine ⟨first, true, queuedEvent_eagerCallback _ _ _, ?_, fun _ => by simp [shown]⟩
    rw [eagerCallback_first options rfl]
    simp [immediate, shown]

/-- Without `call_immediately`, a watcher never reports, by induction on the events. -/
theorem run_unreported {options : Options δ} (later : options.callImmediately = false)
    {events : List Event} {final : State}
    (reached : Transition.run (step options) .initial events = some final)
    : final.lastReportedExists = none ∧ final.reports = [] := by
  suffices kept : final.scheduled = [] ∧ final.lastReportedExists = none ∧ final.reports = []
    from kept.2
  refine Transition.run_preserves
    (P := fun state =>
      state.scheduled = [] ∧ state.lastReportedExists = none ∧ state.reports = [])
    (fun state event next holds stepped => ?_) ⟨rfl, rfl, rfl⟩ reached
  obtain ⟨none, unreported, silent⟩ := holds
  cases event with
  | passes event =>
      obtain ⟨-, moved⟩ := Option.ite_none_left_eq_some.mp stepped
      rw [eagerCallback_first options unreported] at moved
      obtain rfl := Option.some.inj moved
      simp [later, State.queue, none, silent]
  | runs handle => simp [step, none] at stepped
  | exits =>
      obtain ⟨-, moved⟩ := Option.ite_none_left_eq_some.mp stepped
      obtain rfl := Option.some.inj moved
      have fewer := scheduled_cancelHandle_sublist state
      rw [none] at fewer
      exact ⟨List.sublist_nil.mp fewer, by simpa using unreported, by simpa using silent⟩

/-- A watcher that first saw its file created is up to date wherever no callback is scheduled,
until it is left, just if it was to report that first event.
-/
theorem up_to_date_iff {options : Options δ} {events : List Event} {final : State}
    (reached
      : Transition.run (step options) .initial (.passes .create :: events) = some final)
    (watching : final.exited = false) (settled : final.scheduled = [])
    : UpToDate (passed (.passes .create :: events)) final ↔ options.callImmediately = true := by
  constructor
  · rintro ⟨last, -, reported⟩
    by_contra later
    have none := (run_unreported (by simpa using later) reached).1
    cases none.symm.trans reported
  · intro immediate
    rcases run_current immediate rfl reached with exited | ⟨event, last, queued, reported, upToDate⟩
    · simp [watching] at exited
    · refine ⟨event, (queuedEvent_of_run reached).symm.trans queued, ?_⟩
      rw [reported, upToDate settled]

/-- A deletion that is debounced, then reported. -/
theorem up_to_date_deleted
    : ∃ final : State,
        let events : List Event := [.passes .create, .passes .write, .passes .delete, .runs 1]
        Transition.run (step { callImmediately := true, debounceDelay := some 2 }) .initial events
          = some final
        ∧ final.scheduled = []
        ∧ UpToDate (passed events) final := by
  have reached : Transition.run (step { callImmediately := true, debounceDelay := some 2 }) .initial
      [.passes .create, .passes .write, .passes .delete, .runs 1] = some _ := rfl
  exact ⟨_, reached, rfl, (up_to_date_iff reached rfl rfl).mpr rfl⟩

/-- A file that is deleted while it is watched, where the first event was not to be reported. -/
theorem up_to_date_never
    : ∃ final : State,
        let events : List Event := [.passes .create, .passes .delete]
        let options : Options Nat := { callImmediately := false, debounceDelay := none }
        Transition.run (step options) .initial events = some final
        ∧ final.exited = false
        ∧ final.scheduled = []
        ∧ final.reports = []
        ∧ ¬UpToDate (passed events) final := by
  refine ⟨_, rfl, rfl, rfl, rfl, ?_⟩
  rintro ⟨last, -, reported⟩
  cases reported

end Aiodrive.WatchPath
