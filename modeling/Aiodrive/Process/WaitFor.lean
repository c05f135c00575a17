import Aiodrive.Asyncio.Future
import Aiodrive.Transition.Runs

/-! `wait_for_process()` of `modules/process.py`: a task that waits for a process through a
kqueue or a pidfd, whose reader the event loop calls from its ready queue, or that polls for the
process.
-/

namespace Aiodrive.WaitForProcess

/-- A process, which exists until it has been reaped. -/
inductive Child where
  | running
  | zombie
  | gone
deriving DecidableEq, Repr

/-- What tells of the exit of a process. -/
inductive Notifier where
  | kqueue
  | pidfd
deriving DecidableEq, Repr

/-- A callback in the ready queue: the reader of the notifier, which may be cancelled there, or the
next step of the task.
-/
inductive Handle where
  | reader (cancelled : Bool)
  | wakeup
deriving DecidableEq, Repr

/-- `loop.remove_reader()` on a queued callback. -/
def Handle.removeReader : Handle → Handle
  | reader _ => reader true
  | wakeup => wakeup

/-- Where the task is: at `await future`; at `await asyncio.sleep(0.1)`; or past the call. -/
inductive Place where
  | watching (notifier : Notifier) (mustCancel : Bool)
  | polling
  | ended (outcome : Outcome Empty Unit)
deriving DecidableEq, Repr

/-- `consumed` is whether the event of a kqueue was read, `registered` whether the descriptor of
the notifier is open and has a reader. Of the ready queue, the first `batch` callbacks run
before the loop looks for readable descriptors again. `failures` counts the `InvalidStateError`s
of the reader, which go to the exception handler of the loop.
-/
structure State where
  child : Child
  place : Place
  future : FutureState Empty Unit
  consumed : Bool
  registered : Bool
  ready : List Handle
  batch : Nat
  failures : Nat
deriving DecidableEq, Repr

/-- What can happen: the process exits, or is reaped; the loop looks whether the descriptor is
readable, or runs the next callback; a sleep of the task ends; another callback cancels the
task.
-/
inductive Event where
  | exits
  | reaped
  | select
  | runs
  | sleepEnds
  | cancel
deriving DecidableEq, Repr

/-- `process_exists()` -/
def processExists (child : Child) : Bool := child ≠ .gone

/-- The call up to its first suspension. `found` is whether the registration finds the process,
which it does not once it is gone, and does while it runs.
-/
def start (notifier : Option Notifier) (child : Child) (found : Bool) : Option State :=
  let called (place : Place) (registered : Bool) : State :=
    { child, place, future := .pending, consumed := false, registered, ready := [], batch := 0,
      failures := 0 }
  match notifier with
  | some notifier =>
      match found, child with
      | true, .gone | false, .running => none
      | true, _ => some (called (.watching notifier false) true)
      | false, _ => some (called (.ended (.returned ())) false)
  | none =>
      if processExists child then some (called .polling false)
      else some (called (.ended (.returned ())) false)

/-- The descriptor of the notifier is readable, and stays so but for a kqueue that was read. -/
def State.readable (state : State) : Bool :=
  state.registered && state.child != .running && !state.consumed

/-- The task waits for the event of a kqueue, which can be read once. -/
def Place.isKqueue : Place → Bool
  | watching .kqueue _ => true
  | watching .pidfd _ | polling | ended _ => false

/-- The reader: `future.set_result(None)`, in a kqueue after its event was read. -/
def State.read (state : State) : State :=
  let state : State := { state with consumed := state.consumed || state.place.isKqueue }
  match state.future with
  | .pending =>
      { state with future := .success (), ready := state.ready ++ [.wakeup] }
  | .cancelled | .exception _ | .success _ => { state with failures := state.failures + 1 }

theorem read_of_pending {state : State} (pending : state.future = .pending)
    : state.read
      = { state with
          consumed := state.consumed || state.place.isKqueue
          future := .success ()
          ready := state.ready ++ [.wakeup] } := by
  simp [State.read, pending]

theorem read_of_cancelled {state : State} (cancelled : state.future = .cancelled)
    : state.read
      = { state with
          consumed := state.consumed || state.place.isKqueue
          failures := state.failures + 1 } := by
  simp [State.read, cancelled]

@[simp] theorem read_child (state : State) : state.read.child = state.child := by
  simp only [State.read]
  split <;> rfl

@[simp] theorem read_place (state : State) : state.read.place = state.place := by
  simp only [State.read]
  split <;> rfl

/-- The task resumes at its `await future`, and removes the reader. -/
def State.resume (state : State) (mustCancel : Bool) : State :=
  { state with
    registered := false
    ready := state.ready.map Handle.removeReader
    place :=
      .ended
        (if mustCancel || state.future.isCancelled then .raised .cancelledError else .returned ()) }

def step (state : State) : Event → Option State
  | .exits =>
      match state.child with
      | .running => some { state with child := .zombie }
      | .zombie | .gone => none
  | .reaped =>
      match state.child with
      | .zombie => some { state with child := .gone }
      | .running | .gone => none
  | .select =>
      match state.place, state.batch with
      | .watching _ _, 0 =>
          let ready := state.ready ++ if state.readable then [.reader false] else []
          some { state with ready, batch := ready.length }
      | .watching _ _, _ + 1 | .polling, _ | .ended _, _ => none
  | .runs =>
      match state.ready, state.batch with
      | handle :: ready, batch + 1 =>
          let state := { state with ready, batch }
          match handle, state.place with
          | .reader false, _ => some state.read
          | .reader true, _ => some state
          | .wakeup, .watching _ mustCancel => some (state.resume mustCancel)
          | .wakeup, .polling | .wakeup, .ended _ => some state
      | _, _ => none
  | .sleepEnds =>
      match state.place with
      | .polling =>
          if processExists state.child then some state
          else some { state with place := .ended (.returned ()) }
      | .watching _ _ | .ended _ => none
  | .cancel =>
      match state.place, state.future with
      | .watching _ _, .pending =>
          some { state with future := .cancelled, ready := state.ready ++ [.wakeup] }
      | .watching notifier _, .cancelled | .watching notifier _, .success _ =>
          some { state with place := .watching notifier true }
      | .polling, _ => some { state with place := .ended (.raised .cancelledError) }
      | .watching _ _, .exception _ | .ended _, _ => none

-----------------------------------------------------------------------------------------
-- The shapes of the ready queue
-----------------------------------------------------------------------------------------

/-- All that a call can look like, with whether the task was asked to cancel. A reader is ahead
of the task only if the request came between it and the callbacks before it.
-/
inductive Shape (asked : Prop) (state : State) : Prop where
  | idle {notifier : Notifier} (here : state.place = .watching notifier false)
    (pending : state.future = .pending) (unread : state.consumed = false)
    (registered : state.registered = true) (ready : state.ready = []) (batch : state.batch = 0)
    (failures : state.failures = 0)
  | called {notifier : Notifier} (here : state.place = .watching notifier false)
    (pending : state.future = .pending) (registered : state.registered = true)
    (ready : state.ready = [.reader false]) (batch : state.batch = 1)
    (exited : state.child ≠ .running) (failures : state.failures = 0)
  | crossed {notifier : Notifier} {mustCancel : Bool}
    (here : state.place = .watching notifier mustCancel) (requested : asked)
    (cancelled : state.future = .cancelled) (registered : state.registered = true)
    (ready : state.ready = [.reader false, .wakeup]) (batch : state.batch = 1)
    (exited : state.child ≠ .running) (failures : state.failures = 0)
  | resuming {notifier : Notifier} {mustCancel : Bool} {read : List Handle}
    (here : state.place = .watching notifier mustCancel)
    (requested : mustCancel = true → asked)
    (future
      : (state.future = .success () ∧ state.child ≠ .running ∧ state.failures = 0)
        ∨ (state.future = .cancelled ∧ asked ∧ state.failures ≤ 1))
    (registered : state.registered = true) (ready : state.ready = .wakeup :: read)
    (few : read = [] ∨ read = [.reader false] ∧ state.batch ≠ 0)
  | polling (here : state.place = .polling) (registered : state.registered = false)
    (ready : state.ready = []) (failures : state.failures = 0)
  | ended {outcome : Outcome Empty Unit} (here : state.place = .ended outcome)
    (explained
      : (outcome = .returned () ∧ state.child ≠ .running)
        ∨ (outcome = .raised .cancelledError ∧ asked))
    (registered : state.registered = false)
    (ready : ∀ handle ∈ state.ready, handle = .reader true)
    (failures : state.failures = 0 ∨ asked ∧ state.failures = 1)

theorem Shape.mono {asked later : Prop} {state : State} (shape : Shape asked state)
    (more : asked → later)
    : Shape later state := by
  cases shape with
  | idle here pending unread registered ready batch failures =>
      exact .idle here pending unread registered ready batch failures
  | called here pending registered ready batch exited failures =>
      exact .called here pending registered ready batch exited failures
  | crossed here requested cancelled registered ready batch exited failures =>
      exact .crossed here (more requested) cancelled registered ready batch exited failures
  | resuming here requested future registered ready few =>
      refine .resuming here (fun must => more (requested must)) ?_ registered ready few
      exact future.imp_right (fun ⟨cancelled, asked, failures⟩ => ⟨cancelled, more asked, failures⟩)
  | polling here registered ready failures => exact .polling here registered ready failures
  | ended here explained registered ready failures =>
      exact .ended here (explained.imp_right (And.imp_right more)) registered ready
        (failures.imp_right (And.imp_left more))

/-- The process goes on to the end of its life, and nothing else changes. -/
theorem Shape.setChild {asked : Prop} {state : State} (shape : Shape asked state) {child : Child}
    (later : child ≠ .running)
    : Shape asked { state with child } := by
  cases shape with
  | idle here pending unread registered ready batch failures =>
      exact .idle here pending unread registered ready batch failures
  | called here pending registered ready batch exited failures =>
      exact .called here pending registered ready batch later failures
  | crossed here requested cancelled registered ready batch exited failures =>
      exact .crossed here requested cancelled registered ready batch later failures
  | resuming here requested future registered ready few =>
      exact .resuming here requested
        (future.imp_left fun ⟨success, _, failures⟩ => ⟨success, later, failures⟩) registered ready
        few
  | polling here registered ready failures => exact .polling here registered ready failures
  | ended here explained registered ready failures =>
      exact .ended here (explained.imp_left fun ⟨returned, _⟩ => ⟨returned, later⟩) registered ready
        failures

theorem Shape.select {asked : Prop} {state next : State} (shape : Shape asked state)
    (stepped : step state .select = some next)
    : Shape asked next := by
  simp only [step] at stepped
  split at stepped
  · rename_i watches turn
    obtain rfl := Option.some.inj stepped
    cases shape with
    | idle here pending unread registered ready batch failures =>
        cases readable : state.readable with
        | true =>
            have exited : state.child ≠ .running := by
              intro runs
              simp [State.readable, runs] at readable
            exact .called here pending registered (by simp [ready]) (by simp [ready]) exited failures
        | false =>
            exact .idle here pending unread registered (by simp [ready]) (by simp [ready]) failures
    | called here pending registered ready batch exited failures => simp [turn] at batch
    | crossed here requested cancelled registered ready batch exited failures =>
        simp [turn] at batch
    | resuming here requested future registered ready few =>
        obtain rfl := few.resolve_right (fun read => read.2 turn)
        refine .resuming here requested future registered (by simp [ready]; rfl) ?_
        cases state.readable <;> simp [ready]
    | polling here registered ready failures => simp [watches] at here
    | ended here explained registered ready failures => simp [watches] at here
  all_goals contradiction

theorem Shape.runs {asked : Prop} {state next : State} (shape : Shape asked state)
    (stepped : step state .runs = some next)
    : Shape asked next := by
  simp only [step] at stepped
  split at stepped
  · rename_i handle queue batch first turn
    cases shape with
    | idle here pending unread registered ready batch failures => simp [first] at ready
    | called here pending registered ready last exited failures =>
        obtain ⟨rfl, rfl⟩ := List.cons.inj (first.symm.trans ready)
        obtain rfl : batch = 0 := by omega
        obtain rfl := Option.some.inj stepped
        rw [read_of_pending]
        · exact .resuming here (by simp) (.inl ⟨rfl, exited, failures⟩) registered rfl (.inl rfl)
        · exact pending
    | crossed here requested cancelled registered ready last exited failures =>
        obtain ⟨rfl, rfl⟩ := List.cons.inj (first.symm.trans ready)
        obtain rfl := Option.some.inj stepped
        rw [read_of_cancelled]
        · refine .resuming here (fun _ => requested) (.inr ⟨cancelled, requested, ?_⟩) registered rfl
            (.inl rfl)
          simp [failures]
        · exact cancelled
    | @resuming notifier mustCancel read here requested future registered ready few =>
        obtain ⟨rfl, rfl⟩ := List.cons.inj (first.symm.trans ready)
        simp only [here, Option.some.injEq] at stepped
        subst stepped
        refine .ended rfl ?_ rfl ?_ ?_
        · rcases future with ⟨success, exited, failures⟩ | ⟨cancelled, asked, failures⟩
          · cases mustCancel with
            | true => exact .inr ⟨by simp, requested rfl⟩
            | false => exact .inl ⟨by simp [success, FutureState.isCancelled], exited⟩
          · exact .inr ⟨by simp [cancelled, FutureState.isCancelled], asked⟩
        · intro handle queued
          obtain ⟨before, listed, rfl⟩ := List.mem_map.mp queued
          rcases few with rfl | ⟨rfl, -⟩
          · simp at listed
          · obtain rfl := List.mem_singleton.mp listed
            rfl
        · rcases future with ⟨-, -, failures⟩ | ⟨-, asked, failures⟩
          · exact .inl failures
          · rcases Nat.le_one_iff_eq_zero_or_eq_one.mp failures with none | one
            · exact .inl none
            · exact .inr ⟨asked, one⟩
    | polling here registered ready failures => simp [first] at ready
    | ended here explained registered ready failures =>
        obtain rfl := ready handle (by simp [first])
        obtain rfl := Option.some.inj stepped
        exact .ended here explained registered
          (fun handle queued => ready handle (by simp [first, queued])) failures
  · contradiction

theorem Shape.cancel {asked : Prop} {state next : State} (shape : Shape asked state)
    (stepped : step state .cancel = some next)
    : Shape True next := by
  cases shape with
  | idle here pending unread registered ready batch failures =>
      simp only [step, here, pending, Option.some.injEq] at stepped
      subst stepped
      refine .resuming rfl (by simp) (.inr ⟨rfl, trivial, ?_⟩) registered ?_ (.inl rfl)
      · simp [failures]
      · simp [ready]
  | called here pending registered ready batch exited failures =>
      simp only [step, here, pending, Option.some.injEq] at stepped
      subst stepped
      refine .crossed rfl trivial rfl registered ?_ batch exited failures
      simp [ready]
  | crossed here requested cancelled registered ready batch exited failures =>
      simp only [step, here, cancelled, Option.some.injEq] at stepped
      subst stepped
      exact .crossed rfl trivial rfl registered ready batch exited failures
  | resuming here requested future registered ready few =>
      rcases future with ⟨success, exited, failures⟩ | ⟨cancelled, asked, failures⟩
      · simp only [step, here, success, Option.some.injEq] at stepped
        subst stepped
        exact .resuming rfl (fun _ => trivial) (.inl ⟨rfl, exited, failures⟩) registered ready few
      · simp only [step, here, cancelled, Option.some.injEq] at stepped
        subst stepped
        exact .resuming rfl (fun _ => trivial) (.inr ⟨rfl, trivial, failures⟩) registered ready
          few
  | polling here registered ready failures =>
      simp only [step, here, Option.some.injEq] at stepped
      subst stepped
      exact .ended rfl (.inr ⟨rfl, trivial⟩) registered (by simp [ready]) (.inl failures)
  | ended here explained registered ready failures => simp [step, here] at stepped

theorem Shape.sleepEnds {asked : Prop} {state next : State} (shape : Shape asked state)
    (stepped : step state .sleepEnds = some next)
    : Shape asked next := by
  cases shape with
  | polling here registered ready failures =>
      simp only [step, here] at stepped
      split at stepped
      · exact Option.some.inj stepped ▸ .polling here registered ready failures
      · rename_i gone
        obtain rfl := Option.some.inj stepped
        have exited : state.child ≠ .running := by
          intro runs
          simp [processExists, runs] at gone
        exact .ended rfl (.inl ⟨rfl, exited⟩) registered (by simp [ready]) (.inl failures)
  | _ => simp_all [step]

/-- Every step leaves one of the shapes. -/
theorem Shape.step {asked : Prop} {state next : State} {event : Event}
    (shape : Shape asked state) (stepped : step state event = some next)
    : Shape (asked ∨ event = .cancel) next := by
  cases event with
  | exits =>
      simp only [WaitForProcess.step] at stepped
      split at stepped
      · exact Option.some.inj stepped ▸ (shape.setChild (by simp)).mono .inl
      all_goals contradiction
  | reaped =>
      simp only [WaitForProcess.step] at stepped
      split at stepped
      · exact Option.some.inj stepped ▸ (shape.setChild (by simp)).mono .inl
      all_goals contradiction
  | select => exact (shape.select stepped).mono .inl
  | runs => exact (shape.runs stepped).mono .inl
  | sleepEnds => exact (shape.sleepEnds stepped).mono .inl
  | cancel => exact (shape.cancel stepped).mono (fun _ => .inr rfl)

theorem shape_start {notifier : Option Notifier} {child : Child} {found : Bool} {state : State}
    (started : start notifier child found = some state)
    : Shape False state := by
  cases notifier with
  | some notifier =>
      cases found <;> cases child <;> simp only [start, reduceCtorEq, Option.some.injEq] at started
      all_goals subst started
      · exact .ended rfl (.inl ⟨rfl, by simp⟩) rfl (by simp) (.inl rfl)
      · exact .ended rfl (.inl ⟨rfl, by simp⟩) rfl (by simp) (.inl rfl)
      · exact .idle rfl rfl rfl rfl rfl rfl rfl
      · exact .idle rfl rfl rfl rfl rfl rfl rfl
  | none =>
      simp only [start] at started
      split at started
      · exact Option.some.inj started ▸ .polling rfl rfl rfl rfl
      · rename_i gone
        have exited : child ≠ .running := by
          rintro rfl
          simp [processExists] at gone
        exact Option.some.inj started ▸
          .ended rfl (.inl ⟨rfl, exited⟩) rfl (by simp) (.inl rfl)

-----------------------------------------------------------------------------------------
-- Runs
-----------------------------------------------------------------------------------------

theorem shape_of_run {notifier : Option Notifier} {child : Child} {found : Bool}
    {first final : State} {events : List Event} (started : start notifier child found = some first)
    (reached : Transition.run step first events = some final)
    : Shape (.cancel ∈ events) final := by
  refine Transition.run_preserves_history (P := fun past state => Shape (.cancel ∈ past) state)
    (fun past state event next shape stepped => ?_) ((shape_start started).mono False.elim) reached
  exact (shape.step stepped).mono (by simp [eq_comm])

/-- What is left to do of a call whose process has exited. -/
def remaining (state : State) : Nat :=
  match state.place with
  | .watching _ _ =>
      if state.batch = 0 then
        if state.future.done then 4 else 6
      else
        if state.ready.head? = some .wakeup then 3 else 5
  | .polling => 1
  | .ended _ => state.ready.length

/-- The events that the loop brings about by itself. -/
def Event.isOwn : Event → Bool
  | select | runs | sleepEnds => true
  | exits | reaped | cancel => false

/-- The process is such that the call can end. -/
def Exited (state : State) : Prop :=
  state.child ≠ .running ∧ (state.place = .polling → state.child = .gone)

theorem exited_of_own {state next : State} {event : Event} (exited : Exited state)
    (own : event.isOwn = true) (stepped : step state event = some next)
    : Exited next := by
  unfold Exited at exited ⊢
  cases event with
  | select =>
      simp only [step] at stepped
      split at stepped
      · exact Option.some.inj stepped ▸ exited
      all_goals contradiction
  | runs =>
      simp only [step] at stepped
      split at stepped
      · split at stepped
        all_goals obtain rfl := Option.some.inj stepped
        · simpa using exited
        · exact exited
        · exact ⟨exited.1, by simp [State.resume]⟩
        · exact exited
        · exact exited
      · contradiction
  | sleepEnds =>
      simp only [step] at stepped
      split at stepped
      · split at stepped
        all_goals obtain rfl := Option.some.inj stepped
        · exact exited
        · exact ⟨exited.1, by simp⟩
      all_goals contradiction
  | exits => cases own
  | reaped => cases own
  | cancel => cases own

/-- Each step of the loop brings such a call closer to its end. -/
theorem remaining_lt {state next : State} {event : Event} (shape : Shape True state)
    (exited : Exited state) (own : event.isOwn = true) (stepped : step state event = some next)
    : remaining next < remaining state := by
  cases shape with
  | idle here pending unread registered ready batch failures =>
      cases event with
      | select =>
          have readable : state.readable = true := by
            simp [State.readable, registered, unread, exited.1]
          simp only [step, here, batch, ready, readable, if_true, Option.some.injEq] at stepped
          subst stepped
          simp [remaining, here, batch, pending]
      | runs => simp [step, ready] at stepped
      | sleepEnds => simp [step, here] at stepped
      | _ => cases own
  | called here pending registered ready batch running failures =>
      cases event with
      | runs =>
          simp only [step, ready, batch, Option.some.injEq, State.read, pending] at stepped
          subst stepped
          simp [remaining, here, batch, ready]
      | select => simp [step, here, batch] at stepped
      | sleepEnds => simp [step, here] at stepped
      | _ => cases own
  | crossed here requested cancelled registered ready batch running failures =>
      cases event with
      | runs =>
          simp only [step, ready, batch, Option.some.injEq, State.read, cancelled] at stepped
          subst stepped
          simp [remaining, here, batch, ready]
      | select => simp [step, here, batch] at stepped
      | sleepEnds => simp [step, here] at stepped
      | _ => cases own
  | resuming here requested future registered ready few =>
      have done : state.future.done = true := by
        rcases future with ⟨success, -⟩ | ⟨cancelled, -⟩ <;> simp [*]
      cases event with
      | select =>
          cases batch : state.batch with
          | zero =>
              simp only [step, here, batch, ready, Option.some.injEq] at stepped
              subst stepped
              simp [remaining, here, batch, done]
          | succ more => simp [step, here, batch] at stepped
      | runs =>
          cases batch : state.batch with
          | zero => simp [step, ready, batch] at stepped
          | succ more =>
              simp only [step, ready, batch, here, Option.some.injEq] at stepped
              subst stepped
              rcases few with rfl | ⟨rfl, -⟩ <;>
                simp [remaining, here, batch, ready, State.resume]
      | sleepEnds => simp [step, here] at stepped
      | _ => cases own
  | polling here registered ready failures =>
      cases event with
      | sleepEnds =>
          simp only [step, here, exited.2 here, processExists, ne_eq, not_true_eq_false,
            decide_false, Bool.false_eq_true, if_false, Option.some.injEq] at stepped
          subst stepped
          simp [remaining, here, ready]
      | select => simp [step, here] at stepped
      | runs => simp [step, ready] at stepped
      | _ => cases own
  | ended here explained registered ready failures =>
      cases event with
      | runs =>
          simp only [step] at stepped
          split at stepped
          · rename_i handle queue batch first turn
            obtain rfl := ready handle (by simp [first])
            obtain rfl := Option.some.inj stepped
            simp [remaining, here, first]
          · contradiction
      | select => simp [step, here] at stepped
      | sleepEnds => simp [step, here] at stepped
      | _ => cases own

/-- A call whose process has exited ends when the loop is left to itself. -/
theorem terminates_of_exited {state : State} (shape : Shape True state) (exited : Exited state)
    : Transition.Terminates step (fun event => event.isOwn = true)
        (fun state => ∃ outcome, state.place = .ended outcome) state := by
  refine Transition.terminates_of_measure (P := fun state => Shape True state ∧ Exited state)
    remaining ?_ ?_ ?_ ⟨shape, exited⟩
  · rintro state event next ⟨shape, exited⟩ own stepped
    exact ⟨(shape.step stepped).mono (fun _ => trivial), exited_of_own exited own stepped⟩
  · rintro state event next ⟨shape, exited⟩ own stepped
    exact remaining_lt shape exited own stepped
  · rintro state ⟨shape, exited⟩
    cases shape with
    | idle here pending unread registered ready batch failures =>
        exact .inr ⟨.select, rfl, by simp [step, here, batch]⟩
    | called here pending registered ready batch running failures =>
        exact .inr ⟨.runs, rfl, by simp [step, ready, batch]⟩
    | crossed here requested cancelled registered ready batch running failures =>
        exact .inr ⟨.runs, rfl, by simp [step, ready, batch]⟩
    | resuming here requested future registered ready few =>
        cases batch : state.batch with
        | zero => exact .inr ⟨.select, rfl, by simp [step, here, batch]⟩
        | succ more => exact .inr ⟨.runs, rfl, by simp [step, ready, batch, here]⟩
    | polling here registered ready failures =>
        refine .inr ⟨.sleepEnds, rfl, ?_⟩
        simp [step, here, exited.2 here, processExists]
    | ended here explained registered ready failures => exact .inl ⟨_, here⟩

/-- In every order of what the process, the loop and others do, `wait_for_process()` returns
only after the process has exited, and raises only where it was cancelled; it leaves no reader
behind, and its reader finds the future done at most once, and never unless it was cancelled.
Once the process has exited, and is reaped where it is polled for, the call ends as soon as the
loop is left to itself.
-/
theorem waitForProcess_sound {notifier : Option Notifier} {child : Child} {found : Bool}
    {first final : State} {events : List Event} (started : start notifier child found = some first)
    (reached : Transition.run step first events = some final)
    : (∀ outcome,
        final.place = .ended outcome
        → (outcome = .returned () ∧ final.child ≠ .running
            ∨ outcome = .raised .cancelledError ∧ .cancel ∈ events)
          ∧ final.registered = false
          ∧ ∀ handle ∈ final.ready, handle = .reader true)
      ∧ (final.failures = 0 ∨ .cancel ∈ events ∧ final.failures = 1)
      ∧ (Exited final
          → Transition.Terminates step (fun event => event.isOwn = true)
              (fun state => ∃ outcome, state.place = .ended outcome) final) := by
  have shape := shape_of_run started reached
  refine ⟨fun outcome here => ?_, ?_, fun exited => ?_⟩
  · cases shape with
    | ended other explained registered ready failures =>
        obtain rfl := Place.ended.inj (here.symm.trans other)
        exact ⟨explained, registered, ready⟩
    | _ => simp_all
  · cases shape with
    | resuming here requested future registered ready few =>
        rcases future with ⟨-, -, none⟩ | ⟨-, asked, few⟩
        · exact .inl none
        · exact (Nat.le_one_iff_eq_zero_or_eq_one.mp few).imp_right (fun one => ⟨asked, one⟩)
    | ended here explained registered ready failures => exact failures
    | _ => exact .inl ‹_›
  · exact terminates_of_exited (shape.mono (fun _ => trivial)) exited

/-- A task that is cancelled after the loop found its pidfd readable. -/
theorem waitForProcess_sound_crossed
    : ∃ final : State,
        ((start (some .pidfd) .running true).bind fun first =>
          Transition.run step first [.exits, .select, .cancel, .runs, .select, .runs]) = some final
        ∧ final.failures = 1
        ∧ (final.failures = 0
            ∨ .cancel ∈ [Event.exits, .select, .cancel, .runs, .select, .runs]
              ∧ final.failures = 1) := by
  have started : start (some .pidfd) .running true = some _ := rfl
  have reached
      : Transition.run step
          { child := .running, place := .watching .pidfd false, future := .pending,
            consumed := false, registered := true, ready := [], batch := 0, failures := 0 }
          [.exits, .select, .cancel, .runs, .select, .runs] = some _ :=
    rfl
  exact ⟨_, rfl, rfl, (waitForProcess_sound started reached).2.1⟩

end Aiodrive.WaitForProcess
