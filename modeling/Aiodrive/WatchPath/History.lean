import Aiodrive.WatchPath.Reports
import Mathlib.Data.List.Chain

/-! The reports of `watch_path()` as a history of the file, where the kernel's events are
handled one after the other: with a debounce delay the timer fires or not between two of them,
and without one all callbacks run.
-/

namespace Aiodrive.WatchPath

variable {δ : Type*}

/-- What the handling of one kernel event passes to `eager_callback()`. -/
def kernelEvents : List (List WatchPathEvent) :=
  [[.write], [.delete], [.delete, .create], [.create]]

/-- The handling of one kernel event, and whether the timer fires before the next one. -/
structure Handling where
  events : List WatchPathEvent
  fires : Bool
deriving DecidableEq, Repr

def State.handle (options : Options δ) (state : State) (events : List WatchPathEvent) : State :=
  events.foldl (eagerCallback options) state

/-- The event loop runs all scheduled handles in order. -/
def State.runScheduled (state : State) : State := state.scheduled.foldl State.runHandle state

def State.round (options : Options δ) (state : State) (handling : Handling) : State :=
  let state := state.handle options handling.events
  if options.debounceDelay.isSome && !handling.fires then state else state.runScheduled

/-- A report that may come directly after another one. -/
def Follows (earlier : WatchPathEvent) : WatchPathEvent → Prop
  | .create => earlier = .delete
  | .delete | .write => earlier = .create ∨ earlier = .write

/-- `create` occurs only first or directly after `delete`, and the others only directly after
`create` or `write`.
-/
structure LegalHistory (reports : List WatchPathEvent) : Prop where
  first : ∀ report ∈ reports.head?, report = .create
  chain : reports.IsChain Follows

-----------------------------------------------------------------------------------------
-- Rounds as runs
-----------------------------------------------------------------------------------------

@[simp] theorem exited_eagerCallback (options : Options δ) (state : State) (event : WatchPathEvent)
    : (eagerCallback options state event).exited = state.exited := by
  cases last : state.lastReportedExists with
  | none => simp [eagerCallback_first options last, State.queue]
  | some exists_ => exact (eagerCallback_cases options last event).frame.2.2.2.2

@[simp] theorem exited_runHandle (state : State) (handle : Nat)
    : (state.runHandle handle).exited = state.exited := by
  simp [State.runHandle, lateCallback_frame]

/-- Events that are passed one after the other, by induction on them. -/
theorem run_handle (options : Options δ) {state : State} (watching : state.exited = false)
    (events : List WatchPathEvent)
    : Transition.run (step options) state (events.map .passes) = some (state.handle options events)
    := by
  induction events generalizing state with
  | nil => rfl
  | cons event rest ih =>
      have stays : (eagerCallback options state event).exited = false := by simpa using watching
      exact Transition.run_cons_iff.mpr ⟨_, by simp [step, watching], ih stays⟩

/-- Handles that are run from the front of the schedule, by induction on them. -/
theorem run_handles (options : Options δ) {state : State} {handles later : List Nat}
    (front : state.scheduled = handles ++ later)
    : Transition.run (step options) state (handles.map .runs)
        = some (handles.foldl State.runHandle state)
      ∧ (handles.foldl State.runHandle state).scheduled = later := by
  induction handles generalizing state with
  | nil => exact ⟨rfl, front⟩
  | cons handle rest ih =>
      have next : (state.runHandle handle).scheduled = rest ++ later := by
        simp [State.runHandle, lateCallback_frame, front]
      obtain ⟨ran, left⟩ := ih next
      refine ⟨Transition.run_cons_iff.mpr ⟨_, ?_, ran⟩, left⟩
      simp [step, front]

theorem scheduled_runScheduled (state : State) : state.runScheduled.scheduled = [] :=
  (run_handles (δ := Unit) ⟨true, none⟩ (List.append_nil _).symm).2

/-- A round is a run of the watcher. -/
theorem run_round (options : Options δ) {state : State} (watching : state.exited = false)
    (handling : Handling)
    : ∃ events, Transition.run (step options) state events = some (state.round options handling) := by
  have handled := run_handle options watching handling.events
  unfold State.round
  split
  · exact ⟨_, handled⟩
  · have ran := (run_handles options
      (List.append_nil (state.handle options handling.events).scheduled).symm).1
    exact ⟨_, Transition.run_append_iff.mpr ⟨_, handled, ran⟩⟩

-----------------------------------------------------------------------------------------
-- The history of the reports
-----------------------------------------------------------------------------------------

/-- A watcher that has reported: its last report says whether the file exists, its reports are a
legal history, and a deletion that is queued has at most the callback that reports it.
-/
structure Legal (options : Options δ) (state : State) : Prop where
  shown
    : ∃ exists_ event last,
        state.lastReportedExists = some exists_
        ∧ state.queuedEvent = some event
        ∧ state.reports.getLast? = some last
        ∧ (exists_ = false ↔ last = .delete)
        ∧ (event = .delete → state.scheduled.length ≤ if exists_ then 1 else 0)
  history : LegalHistory state.reports
  logged : state.logged = []
  debounced
    : options.debounceDelay.isSome = true
      → state.scheduled = []
        ∨ ∃ handle, state.scheduled = [handle] ∧ state.callbackHandle = some handle

/-- A report that may follow the last one keeps the history legal. -/
theorem LegalHistory.concat {reports : List WatchPathEvent} {last report : WatchPathEvent}
    (legal : LegalHistory reports) (ends : reports.getLast? = some last)
    (follows : Follows last report)
    : LegalHistory (reports ++ [report]) := by
  refine ⟨?_, ?_⟩
  · cases reports with
    | nil => cases ends
    | cons head tail => exact legal.first
  · refine List.isChain_append.mpr ⟨legal.chain, List.isChain_singleton _, ?_⟩
    intro earlier isLast later isFirst
    rw [ends, Option.mem_some_iff] at isLast
    simp only [List.head?_cons, Option.mem_some_iff] at isFirst
    exact isLast ▸ isFirst ▸ follows

/-- What `late_callback()` reports may follow the last report. -/
theorem reported_follows {exists_ : Bool} {event last : WatchPathEvent}
    (tells : exists_ = false ↔ last = .delete) (live : exists_ = false → event ≠ .delete)
    : ∃ report,
        reported exists_ event = some report
        ∧ Follows last report
        ∧ ((event != .delete) = false ↔ report = .delete) := by
  cases exists_ <;> cases event <;> cases last <;> simp_all [reported, Follows]

/-- A callback that runs reports what may follow. -/
theorem Legal.runHandle {options : Options δ} {state : State} (legal : Legal options state)
    {handle : Nat} (scheduled : handle ∈ state.scheduled)
    : Legal options (state.runHandle handle) := by
  obtain ⟨exists_, event, last, reported, queued, ends, tells, few⟩ := legal.shown
  have some : 0 < state.scheduled.length := List.length_pos_of_mem scheduled
  have live : exists_ = false → event ≠ .delete := by
    rintro rfl rfl
    have none := few rfl
    simp at none
    simp [none] at some
  obtain ⟨report, makes, follows, still⟩ := reported_follows tells live
  have alive : ¬(exists_ = false ∧ event = .delete) := fun gone => live gone.1 gone.2
  rw [runHandle_eq reported queued, makes, if_neg alive]
  refine ⟨⟨_, event, report, rfl, queued, by simp, still, fun gone => ?_⟩, ?_, ?_, fun delayed => ?_⟩
  · have bound := few gone
    have fewer : (state.scheduled.erase handle).length = state.scheduled.length - 1 :=
      List.length_erase_of_mem scheduled
    split at bound <;> simp only [fewer] <;> omega
  · exact legal.history.concat ends follows
  · simpa using legal.logged
  · rcases legal.debounced delayed with none | ⟨own, single, -⟩
    · simp [none] at scheduled
    · rw [single, List.mem_singleton] at scheduled
      exact .inl (by simp [single, scheduled])

/-- A debounced watcher has no callback left once it cancels its handle. -/
theorem Legal.scheduled_cancelHandle {options : Options δ} {state : State}
    (legal : Legal options state)
    (ready : options.debounceDelay.isSome = true ∨ state.scheduled = [])
    : state.cancelHandle.scheduled = [] := by
  have none (none : state.scheduled = []) : state.cancelHandle.scheduled = [] :=
    List.sublist_nil.mp (none ▸ scheduled_cancelHandle_sublist state)
  rcases ready with delayed | empty
  · rcases legal.debounced delayed with empty | ⟨handle, single, own⟩
    · exact none empty
    · simp [State.cancelHandle, own, single]
  · exact none empty

theorem scheduled_queue_cancelHandle (state : State) (event : WatchPathEvent)
    : (state.queue event).cancelHandle.scheduled = state.cancelHandle.scheduled := by
  unfold State.cancelHandle State.queue
  simp only
  split <;> rfl

/-- An event is passed to a watcher that has no callback scheduled, or that debounces, or that
is not told of a deletion.
-/
theorem Legal.eagerCallback {options : Options δ} {state : State} (legal : Legal options state)
    {event : WatchPathEvent}
    (ready
      : (options.debounceDelay.isSome = true ∨ state.scheduled = []) ∨ event ≠ .delete)
    : Legal options (eagerCallback options state event) := by
  obtain ⟨exists_, queuedEvent, last, reported, queued, ends, tells, few⟩ := legal.shown
  have eager := eagerCallback_cases options reported event
  obtain ⟨next, same, reports, logged, -⟩ := eager.frame
  generalize WatchPath.eagerCallback options state event = later at *
  refine ⟨⟨exists_, event, last, same.trans reported, next, reports ▸ ends, tells, fun gone => ?_⟩,
    reports ▸ legal.history, logged.trans legal.logged, fun delayed => ?_⟩
  · have ready := ready.resolve_right (not_not_intro gone)
    have none := legal.scheduled_cancelHandle ready
    rw [← scheduled_queue_cancelHandle state event] at none
    cases eager with
    | gone _ _ => simp [none]
    | debounces shown _ =>
        have exists_ : exists_ = true := by
          by_contra missing
          exact shown (by simpa using missing) gone
        simp [State.schedule, none, exists_]
    | schedules shown direct =>
        have exists_ : exists_ = true := by
          by_contra missing
          exact shown (by simpa using missing) gone
        have empty : state.scheduled = [] := ready.resolve_left (by simp [direct])
        simp [State.schedule, State.queue, empty, exists_]
  · have none := legal.scheduled_cancelHandle (.inl delayed)
    rw [← scheduled_queue_cancelHandle state event] at none
    cases eager with
    | gone _ _ => exact .inl none
    | debounces _ _ => exact .inr ⟨_, by simp [State.schedule, none], rfl⟩
    | schedules _ direct => simp [direct] at delayed

/-- The handling of one kernel event keeps the reports legal, by cases on the events. -/
theorem Legal.handle {options : Options δ} {state : State} (legal : Legal options state)
    (ready : options.debounceDelay.isSome = true ∨ state.scheduled = [])
    {events : List WatchPathEvent} (kernel : events ∈ kernelEvents)
    : Legal options (state.handle options events) := by
  have single {event : WatchPathEvent} : Legal options (state.handle options [event]) :=
    legal.eagerCallback (.inl ready)
  simp only [kernelEvents, List.mem_cons, List.not_mem_nil, or_false] at kernel
  rcases kernel with rfl | rfl | rfl | rfl
  · exact single
  · exact single
  · have deleted : Legal options (WatchPath.eagerCallback options state .delete) :=
      legal.eagerCallback (.inl ready)
    exact deleted.eagerCallback (.inr (by simp))
  · exact single

/-- Callbacks that run one after the other keep the reports legal, by induction on them. -/
theorem Legal.runHandles {options : Options δ} {state : State} {handles later : List Nat}
    (legal : Legal options state) (front : state.scheduled = handles ++ later)
    : Legal options (handles.foldl State.runHandle state) := by
  induction handles generalizing state with
  | nil => exact legal
  | cons handle rest ih =>
      have next : (state.runHandle handle).scheduled = rest ++ later := by
        simp [State.runHandle, lateCallback_frame, front]
      exact ih (legal.runHandle (by simp [front])) next

/-- One round keeps the reports legal, and leaves a callback scheduled only where it debounces. -/
theorem Legal.round {options : Options δ} {state : State} (legal : Legal options state)
    (ready : options.debounceDelay.isSome = true ∨ state.scheduled = []) {handling : Handling}
    (kernel : handling.events ∈ kernelEvents)
    : Legal options (state.round options handling)
      ∧ (options.debounceDelay.isSome = true ∨ (state.round options handling).scheduled = []) := by
  have handled := legal.handle ready kernel
  unfold State.round
  split
  · rename_i waits
    simp only [Bool.and_eq_true] at waits
    exact ⟨handled, .inl waits.1⟩
  · exact ⟨handled.runHandles (List.append_nil _).symm, .inr (scheduled_runScheduled _)⟩

/-- A watcher whose first event has been reported. -/
def State.begun : State :=
  { State.initial with
    queuedEvent := some .create
    lastReportedExists := some true
    reports := [.create] }

/-- The first event is reported at once, and nothing is left to do. -/
theorem round_first {options : Options δ} (immediate : options.callImmediately = true)
    {first : Handling} (created : first.events = [.create])
    : State.initial.round options first = .begun := by
  have handled : State.initial.handle options first.events = .begun :=
    calc
      State.initial.handle options first.events
      _ = eagerCallback options .initial .create := by rw [created]; rfl
      _ = .begun := by
        rw [eagerCallback_first options rfl]
        simp only [immediate, if_true]
        rfl
  unfold State.round
  rw [handled]
  split <;> rfl

theorem legal_begun (options : Options δ) : Legal options .begun where
  shown := ⟨true, .create, .create, rfl, rfl, rfl, by simp, nofun⟩
  history := ⟨by simp [State.begun], List.isChain_singleton _⟩
  logged := rfl
  debounced := fun _ => .inl rfl

/-- However the kernel's events follow each other, `late_callback()` finds no event that it cannot
report, and the reports are a legal history of the file; by induction on the handlings.
-/
theorem reports_legal {options : Options δ} (immediate : options.callImmediately = true)
    {first : Handling} (created : first.events = [.create]) {handlings : List Handling}
    (kernel : ∀ handling ∈ handlings, handling.events ∈ kernelEvents)
    : let final := (first :: handlings).foldl (State.round options) .initial
      final.logged = [] ∧ LegalHistory final.reports := by
  suffices all : ∀ (rest : List Handling) (state : State),
      (∀ handling ∈ rest, handling.events ∈ kernelEvents)
      → Legal options state
      → (options.debounceDelay.isSome = true ∨ state.scheduled = [])
      → Legal options (rest.foldl (State.round options) state) by
    have final := all handlings .begun kernel (legal_begun options) (.inr rfl)
    rw [List.foldl_cons, round_first immediate created]
    exact ⟨final.logged, final.history⟩
  intro rest
  induction rest with
  | nil => exact fun state _ legal _ => legal
  | cons handling rest ih =>
      intro state kernel legal ready
      obtain ⟨later, still⟩ := legal.round ready (kernel handling List.mem_cons_self)
      exact ih _ (fun other member => kernel other (List.mem_cons_of_mem _ member)) later still

/-- A file that is replaced, deleted and created again, without a debounce delay. -/
theorem reports_legal_replaced
    : let final :=
        List.foldl (State.round { callImmediately := true, debounceDelay := (none : Option Nat) })
          .initial
          [⟨[.create], false⟩, ⟨[.delete, .create], false⟩, ⟨[.delete], false⟩, ⟨[.create], false⟩]
      final.reports = [.create, .write, .write, .delete, .create]
      ∧ final.logged = []
      ∧ LegalHistory final.reports :=
  ⟨rfl, reports_legal rfl rfl (by decide)⟩

end Aiodrive.WatchPath
