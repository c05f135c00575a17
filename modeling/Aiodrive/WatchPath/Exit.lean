import Aiodrive.WatchPath.Reports
import Mathlib.Data.List.Nodup

/-! What `watch_path()` still reports once it has been left. Its `finally` block cancels the
handle that it created last; a handle that was scheduled before that one still runs.
-/

namespace Aiodrive.WatchPath

variable {δ : Type*}

/-- What holds of every watcher: handles are scheduled once, in the order of their creation, and not
before something has been reported.
-/
structure Sound (state : State) : Prop where
  nodup : state.scheduled.Nodup
  created : ∀ handle ∈ state.scheduled, handle < state.handles
  unreported : state.lastReportedExists = none → state.scheduled = []
  queued : state.lastReportedExists ≠ none → state.queuedEvent ≠ none

theorem initial_sound : Sound .initial where
  nodup := List.nodup_nil
  created := nofun
  unreported := fun _ => rfl
  queued := fun reported => absurd rfl reported

/-- Fewer handles are as sound. -/
theorem Sound.fewer {state : State} (sound : Sound state) {next : State}
    (sublist : next.scheduled.Sublist state.scheduled) (handles : next.handles = state.handles)
    (last : next.lastReportedExists = none → state.lastReportedExists = none)
    (queued : next.queuedEvent ≠ none)
    : Sound next where
  nodup := sound.nodup.sublist sublist
  created := fun handle member => handles ▸ sound.created handle (sublist.subset member)
  unreported := fun unreported =>
    List.sublist_nil.mp (sound.unreported (last unreported) ▸ sublist)
  queued := fun _ => queued

/-- A handle that is scheduled is a new one. -/
theorem Sound.schedule {state : State} (sound : Sound state)
    (reported : state.lastReportedExists ≠ none)
    : Sound state.schedule where
  nodup := by
    refine sound.nodup.append (List.nodup_singleton _) ?_
    intro handle earlier new
    have created := sound.created handle earlier
    rw [List.mem_singleton.mp new] at created
    omega
  created := by
    intro handle member
    rcases List.mem_append.mp member with earlier | new
    · exact Nat.lt_succ_of_lt (sound.created handle earlier)
    · exact List.mem_singleton.mp new ▸ Nat.lt_succ_self _
  unreported := fun unreported => absurd unreported reported
  queued := sound.queued

theorem Sound.queue {state : State} (sound : Sound state) (event : WatchPathEvent)
    : Sound (state.queue event) :=
  ⟨sound.nodup, sound.created, sound.unreported, fun _ => by simp [State.queue]⟩

theorem Sound.cancelHandle {state : State} (sound : Sound state)
    : Sound state.cancelHandle where
  nodup := sound.nodup.sublist (scheduled_cancelHandle_sublist state)
  created := fun handle member => by
    simpa using sound.created handle ((scheduled_cancelHandle_sublist state).subset member)
  unreported := fun unreported => by
    have none := sound.unreported (by simpa using unreported)
    exact List.sublist_nil.mp (none ▸ scheduled_cancelHandle_sublist state)
  queued := fun reported => by simpa using sound.queued (by simpa using reported)

/-- An event passed keeps a watcher sound. -/
theorem Sound.eagerCallback {options : Options δ} {state : State} (sound : Sound state)
    (event : WatchPathEvent)
    : Sound (eagerCallback options state event) := by
  have queued := sound.queue event
  cases last : state.lastReportedExists with
  | none =>
      rw [eagerCallback_first options last]
      have none : state.scheduled = [] := sound.unreported last
      exact ⟨by simp [State.queue, none], by simp [State.queue, none],
        by simp [State.queue, none], by simp [State.queue]⟩
  | some exists_ =>
      have reported : (state.queue event).lastReportedExists ≠ none := by
        simp [State.queue, last]
      have eager := eagerCallback_cases options last event
      generalize WatchPath.eagerCallback options state event = next at eager ⊢
      cases eager with
      | gone _ _ =>
          have cancelled := queued.cancelHandle
          exact ⟨cancelled.nodup, cancelled.created, cancelled.unreported, cancelled.queued⟩
      | debounces _ _ => exact queued.cancelHandle.schedule (by simpa using reported)
      | schedules _ _ => exact queued.schedule reported

/-- A handle that runs keeps a watcher sound. -/
theorem Sound.runHandle {state : State} (sound : Sound state) (handle : Nat)
    : Sound (state.runHandle handle) := by
  have fewer : (state.scheduled.erase handle).Sublist state.scheduled := List.erase_sublist
  cases last : state.lastReportedExists with
  | none =>
      have same : state.runHandle handle
          = { state with scheduled := state.scheduled.erase handle } := by
        simp [State.runHandle, lateCallback, last]
      rw [same]
      have none := sound.unreported last
      exact ⟨by simp [none], by simp [none], by simp [none], fun reported => absurd last reported⟩
  | some exists_ =>
      obtain ⟨event, queued⟩ := Option.ne_none_iff_exists'.mp (sound.queued (by simp [last]))
      rw [runHandle_eq last queued]
      refine sound.fewer fewer rfl ?_ (by simp [queued])
      rintro ⟨⟩

/-- One step keeps a watcher sound, by cases on the event. -/
theorem step_sound {options : Options δ} {state next : State} {event : Event}
    (sound : Sound state) (stepped : step options state event = some next)
    : Sound next := by
  cases event with
  | passes event =>
      obtain ⟨-, moved⟩ := Option.ite_none_left_eq_some.mp stepped
      exact Option.some.inj moved ▸ sound.eagerCallback event
  | runs handle =>
      obtain ⟨-, moved⟩ := Option.ite_none_right_eq_some.mp stepped
      exact Option.some.inj moved ▸ sound.runHandle handle
  | exits =>
      obtain ⟨-, moved⟩ := Option.ite_none_left_eq_some.mp stepped
      have cancelled := sound.cancelHandle
      exact Option.some.inj moved ▸
        ⟨cancelled.nodup, cancelled.created, cancelled.unreported, cancelled.queued⟩

/-- Every reachable watcher is sound, by induction on the events. -/
theorem run_sound {options : Options δ} {events : List Event} {final : State}
    (reached : Transition.run (step options) .initial events = some final)
    : Sound final :=
  Transition.run_preserves (fun _ _ _ sound stepped => step_sound sound stepped) initial_sound
    reached

-----------------------------------------------------------------------------------------
-- What is left at the exit
-----------------------------------------------------------------------------------------

/-- Every callback that is scheduled is the one of the last handle; or the file is not reported to
exist and has been deleted, so that there is nothing to report.
-/
def CancelsPending (state : State) : Prop :=
  (∀ handle ∈ state.scheduled, state.callbackHandle = some handle)
  ∨ state.lastReportedExists = some false ∧ state.queuedEvent = some .delete

instance (state : State) : Decidable (CancelsPending state) :=
  inferInstanceAs (Decidable (_ ∨ _))

/-- The handles that the `finally` block leaves scheduled. -/
theorem Sound.mem_cancelHandle_iff {state : State} (sound : Sound state) (handle : Nat)
    : handle ∈ state.cancelHandle.scheduled
      ↔ handle ∈ state.scheduled ∧ state.callbackHandle ≠ some handle := by
  unfold State.cancelHandle
  split
  · rename_i none
    simp [none]
  · rename_i own here
    simp only [sound.nodup.mem_erase_iff, here, ne_eq, Option.some.injEq, and_comm, eq_comm]

/-- An exited watcher that has nothing to report reports nothing any more, by induction on the
handles that run.
-/
theorem reports_of_silent {options : Options δ} {state final : State} {events : List Event}
    (exited : state.exited = true)
    (silent
      : state.scheduled = []
        ∨ state.lastReportedExists = some false ∧ state.queuedEvent = some .delete)
    (reached : Transition.run (step options) state events = some final)
    : final.reports = state.reports := by
  refine (Transition.run_preserves
    (P := fun next =>
      next.exited = true
      ∧ (next.scheduled = []
          ∨ next.lastReportedExists = some false ∧ next.queuedEvent = some .delete)
      ∧ next.reports = state.reports)
    (fun current event next holds stepped => ?_) ⟨exited, silent, rfl⟩ reached).2.2
  obtain ⟨exited, silent, same⟩ := holds
  cases event with
  | passes event => simp [step, exited] at stepped
  | exits => simp [step, exited] at stepped
  | runs handle =>
      obtain ⟨member, moved⟩ := Option.ite_none_right_eq_some.mp stepped
      obtain rfl := Option.some.inj moved
      rcases silent with none | ⟨last, queued⟩
      · simp [none] at member
      · rw [runHandle_eq last queued]
        exact ⟨exited, .inr ⟨rfl, queued⟩, by simpa [reported] using same⟩

/-- A handle that runs while the file is reported to exist, or has not been deleted, reports. -/
theorem reports_runHandle_ne {state : State} (sound : Sound state) {handle : Nat}
    (scheduled : handle ∈ state.scheduled)
    (live : ¬(state.lastReportedExists = some false ∧ state.queuedEvent = some .delete))
    : (state.runHandle handle).reports ≠ state.reports := by
  have some : state.lastReportedExists ≠ none := fun unreported => by
    simp [sound.unreported unreported] at scheduled
  obtain ⟨exists_, last⟩ := Option.ne_none_iff_exists'.mp some
  obtain ⟨event, queued⟩ := Option.ne_none_iff_exists'.mp (sound.queued some)
  rw [runHandle_eq last queued]
  cases exists_ <;> cases event <;> simp_all [reported]

/-- Once the `finally` block has run, the user's callback is never called again, whatever the event
loop still runs, just if the block cancels all that is pending.
-/
theorem silent_after_exit_iff {options : Options δ} {events : List Event} {state next : State}
    (reached : Transition.run (step options) .initial events = some state)
    (exits : step options state .exits = some next)
    : (∀ later final,
        Transition.run (step options) next later = some final → final.reports = next.reports)
      ↔ CancelsPending state := by
  have sound := run_sound reached
  have nextSound := step_sound sound exits
  obtain ⟨-, moved⟩ := Option.ite_none_left_eq_some.mp exits
  obtain rfl := Option.some.inj moved
  constructor
  · intro silent
    by_contra pending
    simp only [CancelsPending, not_or, not_forall, exists_prop] at pending
    obtain ⟨⟨handle, scheduled, other⟩, live⟩ := pending
    have left : handle ∈ state.cancelHandle.scheduled :=
      (sound.mem_cancelHandle_iff handle).mpr ⟨scheduled, other⟩
    refine reports_runHandle_ne nextSound left (by simpa using live) (silent [.runs handle] _ ?_)
    simp [Transition.run, step, left]
  · intro cancels later final
    apply reports_of_silent rfl
    rcases cancels with own | gone
    · left
      apply List.eq_nil_iff_forall_not_mem.mpr
      intro handle left
      obtain ⟨scheduled, other⟩ := (sound.mem_cancelHandle_iff handle).mp left
      exact other (own handle scheduled)
    · exact .inr (by simpa using gone)

/-- The handle is the only one scheduled. -/
def Single (state : State) : Prop := ∀ handle ∈ state.scheduled, state.callbackHandle = some handle

/-- Where one handle is scheduled at most, nothing is left of it once it is cancelled. -/
theorem Single.scheduled_cancelHandle {state : State} (single : Single state) (sound : Sound state)
    : state.cancelHandle.scheduled = [] := by
  apply List.eq_nil_iff_forall_not_mem.mpr
  intro handle left
  obtain ⟨scheduled, other⟩ := (sound.mem_cancelHandle_iff handle).mp left
  exact other (single handle scheduled)

/-- With a debounce delay, one handle is scheduled at most, by induction on the events. -/
theorem single_of_debounce {options : Options δ} (debounces : options.debounceDelay.isSome = true)
    {events : List Event} {final : State}
    (reached : Transition.run (step options) .initial events = some final)
    : Single final := by
  refine (Transition.run_preserves (P := fun state => Sound state ∧ Single state)
    (fun state event next holds stepped => ⟨step_sound holds.1 stepped, ?_⟩)
    ⟨initial_sound, nofun⟩ reached).2
  obtain ⟨sound, single⟩ := holds
  cases event with
  | passes event =>
      obtain ⟨-, moved⟩ := Option.ite_none_left_eq_some.mp stepped
      obtain rfl := Option.some.inj moved
      cases last : state.lastReportedExists with
      | none =>
          rw [eagerCallback_first options last]
          exact single
      | some exists_ =>
          have queued : Single (state.queue event) := single
          have none := queued.scheduled_cancelHandle (sound.queue event)
          have eager := eagerCallback_cases options last event
          generalize eagerCallback options state event = next at eager ⊢
          cases eager with
          | gone _ _ => simp [Single, none]
          | debounces _ _ => simp [Single, State.schedule, none]
          | schedules _ direct => simp [direct] at debounces
  | runs handle =>
      obtain ⟨-, moved⟩ := Option.ite_none_right_eq_some.mp stepped
      obtain rfl := Option.some.inj moved
      obtain ⟨same, -, scheduled, -, -⟩ :=
        lateCallback_frame { state with scheduled := state.scheduled.erase handle }
      intro other member
      simp only [State.runHandle, scheduled] at member
      exact same.trans (single other (List.mem_of_mem_erase member))
  | exits =>
      obtain ⟨-, moved⟩ := Option.ite_none_left_eq_some.mp stepped
      obtain rfl := Option.some.inj moved
      simp [Single, single.scheduled_cancelHandle sound]

/-- A debounced watcher never reports once it has been left. -/
theorem silent_of_debounce {options : Options δ} (debounces : options.debounceDelay.isSome = true)
    {events : List Event} {state next : State}
    (reached : Transition.run (step options) .initial events = some state)
    (exits : step options state .exits = some next) {later : List Event} {final : State}
    (goesOn : Transition.run (step options) next later = some final)
    : final.reports = next.reports := by
  have single := single_of_debounce debounces reached
  obtain ⟨-, moved⟩ := Option.ite_none_left_eq_some.mp exits
  obtain rfl := Option.some.inj moved
  exact reports_of_silent rfl (.inl (single.scheduled_cancelHandle (run_sound reached))) goesOn

/-- A watcher that is left with one callback pending. -/
theorem silent_after_exit_onePending
    : ∃ state next : State,
        let options : Options Nat := { callImmediately := true, debounceDelay := none }
        Transition.run (step options) .initial [.passes .create, .passes .write] = some state
        ∧ step options state .exits = some next
        ∧ state.scheduled = [0]
        ∧ ∀ later final,
            Transition.run (step options) next later = some final
            → final.reports = next.reports := by
  let options : Options Nat := { callImmediately := true, debounceDelay := none }
  have reached : Transition.run (step options) .initial [.passes .create, .passes .write] = some _ :=
    rfl
  exact ⟨_, _, reached, rfl, rfl, (silent_after_exit_iff reached rfl).mpr (by decide)⟩

/-- A watcher that is left when the handling of one kernel event has passed two events. -/
theorem reports_after_exit
    : ∃ state next final : State,
        let options : Options Nat := { callImmediately := true, debounceDelay := none }
        Transition.run (step options) .initial [.passes .create, .passes .delete, .passes .create]
          = some state
        ∧ step options state .exits = some next
        ∧ Transition.run (step options) next [.runs 0] = some final
        ∧ next.reports = [.create]
        ∧ final.reports = [.create, .write] :=
  ⟨_, _, _, rfl, rfl, rfl, rfl, rfl⟩

end Aiodrive.WatchPath
