import Aiodrive.Transition.Runs

/-! The reports of `watch_path()` of `modules/watch.py`: the events of the watched file are
passed to `eager_callback()`, which reports the first of them at once and leaves the others to
callbacks on the event loop.
-/

namespace Aiodrive.WatchPath

/-- `WatchPathEvent` -/
inductive WatchPathEvent where
  | create
  | delete
  | write
deriving DecidableEq, Repr

/-- The keyword arguments, for delays of any kind. -/
structure Options (δ : Type*) where
  callImmediately : Bool
  debounceDelay : Option δ
deriving DecidableEq, Repr

variable {δ : Type*}

/-- The variables of `eager_callback()` and `late_callback()`. Handles are numbered in the order in
which they are created.
-/
structure State where
  callbackHandle : Option Nat
  lastReportedExists : Option Bool
  queuedEvent : Option WatchPathEvent
  /-- The handles on the event loop that have neither run nor been cancelled. -/
  scheduled : List Nat
  handles : Nat
  /-- The calls of the user's callback, which returns. -/
  reports : List WatchPathEvent
  /-- The texts of the errors that `late_callback()` raises, which the event loop logs. -/
  logged : List String
  /-- The `finally` block of `watch_path()` has run. -/
  exited : Bool
deriving DecidableEq, Repr

def State.initial : State where
  callbackHandle := none
  lastReportedExists := none
  queuedEvent := none
  scheduled := []
  handles := 0
  reports := []
  logged := []
  exited := false

/-- `if callback_handle is not None: callback_handle.cancel()`; a handle that has run or that
has been cancelled stays as it is.
-/
def State.cancelHandle (state : State) : State :=
  match state.callbackHandle with
  | none => state
  | some handle => { state with scheduled := state.scheduled.erase handle }

/-- `callback_handle = loop.call_soon(late_callback)`, or the same with `call_later()`. -/
def State.schedule (state : State) : State :=
  { state with
    callbackHandle := some state.handles
    scheduled := state.scheduled ++ [state.handles]
    handles := state.handles + 1 }

/-- `queued_event = event` -/
def State.queue (state : State) (event : WatchPathEvent) : State :=
  { state with queuedEvent := some event }

def eagerCallback (options : Options δ) (state : State) (event : WatchPathEvent) : State :=
  let state := state.queue event
  match state.lastReportedExists with
  | none =>
      if options.callImmediately then
        { state with
          lastReportedExists := some (event == .create)
          reports := state.reports ++ [event] }
      else
        state
  | some exists_ =>
      if !exists_ && event == .delete then
        { state.cancelHandle with callbackHandle := none }
      else if options.debounceDelay.isSome then
        state.cancelHandle.schedule
      else
        state.schedule

/-- `late_callback()`, whose assignments come after the user's callback, which is taken to
return.
-/
def lateCallback (state : State) : State :=
  match state.lastReportedExists, state.queuedEvent with
  | some false, some .create | some false, some .write =>
      { state with reports := state.reports ++ [.create], lastReportedExists := some true }
  | some false, some .delete => { state with logged := state.logged ++ ["Unreachable"] }
  | some true, some .delete =>
      { state with reports := state.reports ++ [.delete], lastReportedExists := some false }
  | some true, some .create | some true, some .write =>
      { state with reports := state.reports ++ [.write] }
  | none, _ | _, none => state

/-- The event loop runs a scheduled handle. -/
def State.runHandle (state : State) (handle : Nat) : State :=
  lateCallback { state with scheduled := state.scheduled.erase handle }

/-- What can happen: an event is passed to `eager_callback()`, the event loop runs a handle, and the
`finally` block runs, after which the descriptors are no longer watched.
-/
inductive Event where
  | passes (event : WatchPathEvent)
  | runs (handle : Nat)
  | exits
deriving DecidableEq, Repr

def step (options : Options δ) (state : State) : Event → Option State
  | .passes event => if state.exited then none else some (eagerCallback options state event)
  | .runs handle => if handle ∈ state.scheduled then some (state.runHandle handle) else none
  | .exits => if state.exited then none else some { state.cancelHandle with exited := true }

-----------------------------------------------------------------------------------------
-- What the two callbacks do
-----------------------------------------------------------------------------------------

@[simp] theorem queuedEvent_cancelHandle (state : State)
    : state.cancelHandle.queuedEvent = state.queuedEvent := by
  unfold State.cancelHandle
  split <;> rfl

@[simp] theorem lastReportedExists_cancelHandle (state : State)
    : state.cancelHandle.lastReportedExists = state.lastReportedExists := by
  unfold State.cancelHandle
  split <;> rfl

@[simp] theorem reports_cancelHandle (state : State)
    : state.cancelHandle.reports = state.reports := by
  unfold State.cancelHandle
  split <;> rfl

@[simp] theorem logged_cancelHandle (state : State)
    : state.cancelHandle.logged = state.logged := by
  unfold State.cancelHandle
  split <;> rfl

@[simp] theorem handles_cancelHandle (state : State)
    : state.cancelHandle.handles = state.handles := by
  unfold State.cancelHandle
  split <;> rfl

@[simp] theorem exited_cancelHandle (state : State)
    : state.cancelHandle.exited = state.exited := by
  unfold State.cancelHandle
  split <;> rfl

/-- A cancelled handle leaves the others as they are. -/
theorem scheduled_cancelHandle_sublist (state : State)
    : state.cancelHandle.scheduled.Sublist state.scheduled := by
  unfold State.cancelHandle
  split
  · exact List.Sublist.refl _
  · exact List.erase_sublist

/-- What `eager_callback()` does to a watcher that has reported: it finds a deletion of a file
that is not reported to exist, or schedules a handle, in the place of the last one if it
debounces.
-/
inductive Eager (options : Options δ) (state : State) (exists_ : Bool) (event : WatchPathEvent)
    : State → Prop where
  | gone (missing : exists_ = false) (deleted : event = .delete)
    : Eager options state exists_ event
        { (state.queue event).cancelHandle with callbackHandle := none }
  | debounces (shown : exists_ = false → event ≠ .delete)
    (delayed : options.debounceDelay.isSome = true)
    : Eager options state exists_ event (state.queue event).cancelHandle.schedule
  | schedules (shown : exists_ = false → event ≠ .delete)
    (direct : options.debounceDelay.isSome = false)
    : Eager options state exists_ event (state.queue event).schedule

theorem eagerCallback_cases (options : Options δ) {state : State} {exists_ : Bool}
    (last : state.lastReportedExists = some exists_) (event : WatchPathEvent)
    : Eager options state exists_ event (eagerCallback options state event) := by
  have queued : (state.queue event).lastReportedExists = some exists_ := last
  simp only [eagerCallback, queued]
  split
  · rename_i gone
    simp only [Bool.and_eq_true, Bool.not_eq_true', beq_iff_eq] at gone
    exact .gone gone.1 gone.2
  · rename_i shown
    have shown : exists_ = false → event ≠ .delete := by simpa using shown
    split
    · rename_i delayed
      exact .debounces shown delayed
    · rename_i direct
      exact .schedules shown (Bool.not_eq_true _ ▸ direct)

/-- The first event is reported at once, or not at all. -/
theorem eagerCallback_first (options : Options δ) {state : State}
    (last : state.lastReportedExists = none) (event : WatchPathEvent)
    : eagerCallback options state event
      = { state.queue event with
          lastReportedExists :=
            if options.callImmediately then some (event == .create) else none
          reports := state.reports ++ if options.callImmediately then [event] else [] } := by
  have queued : (state.queue event).lastReportedExists = none := last
  simp only [eagerCallback, queued]
  split <;> simp [State.queue, last]

/-- An event passed to a watcher that has reported is queued, and reported later. -/
theorem Eager.frame {options : Options δ} {state next : State} {exists_ : Bool}
    {event : WatchPathEvent} (eager : Eager options state exists_ event next)
    : next.queuedEvent = some event
      ∧ next.lastReportedExists = state.lastReportedExists
      ∧ next.reports = state.reports
      ∧ next.logged = state.logged
      ∧ next.exited = state.exited := by
  cases eager <;> simp [State.schedule, State.queue]

/-- `late_callback()` touches neither the handles nor the queued event. -/
theorem lateCallback_frame (state : State)
    : (lateCallback state).callbackHandle = state.callbackHandle
      ∧ (lateCallback state).queuedEvent = state.queuedEvent
      ∧ (lateCallback state).scheduled = state.scheduled
      ∧ (lateCallback state).handles = state.handles
      ∧ (lateCallback state).exited = state.exited := by
  unfold lateCallback
  split <;> simp

/-- What `late_callback()` reports: what the queued event is to the last report. -/
def reported (exists_ : Bool) (event : WatchPathEvent) : Option WatchPathEvent :=
  match exists_, event with
  | false, .create | false, .write => some .create
  | false, .delete => none
  | true, .delete => some .delete
  | true, .create | true, .write => some .write

/-- Wherever something has been reported, `late_callback()` brings the last report up to date
with the queued event, or finds a deletion of a file that is not reported to exist.
-/
theorem lateCallback_eq {state : State} {exists_ : Bool} {event : WatchPathEvent}
    (last : state.lastReportedExists = some exists_) (queued : state.queuedEvent = some event)
    : lateCallback state
      = { state with
          lastReportedExists := some (event != .delete)
          reports := state.reports ++ (reported exists_ event).toList
          logged :=
            state.logged
            ++ if exists_ = false ∧ event = .delete then ["Unreachable"] else [] } := by
  obtain ⟨handle, lastReported, queuedEvent, scheduled, handles, reports, logged, exited⟩ := state
  simp only at last queued
  subst last queued
  cases exists_ <;> cases event <;> simp [lateCallback, reported]

/-- The same of a handle that the event loop runs. -/
theorem runHandle_eq {state : State} {exists_ : Bool} {event : WatchPathEvent}
    (last : state.lastReportedExists = some exists_) (queued : state.queuedEvent = some event)
    (handle : Nat)
    : state.runHandle handle
      = { state with
          scheduled := state.scheduled.erase handle
          lastReportedExists := some (event != .delete)
          reports := state.reports ++ (reported exists_ event).toList
          logged :=
            state.logged
            ++ if exists_ = false ∧ event = .delete then ["Unreachable"] else [] } := by
  have same : { state with scheduled := state.scheduled.erase handle }.lastReportedExists
      = some exists_ := last
  exact lateCallback_eq same queued

end Aiodrive.WatchPath
