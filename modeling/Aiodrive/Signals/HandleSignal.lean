import Aiodrive.Cancellation.Scope
import Aiodrive.Transition.Runs

/-! `handle_signal()` of `modules/signals.py`: a body under its scope, the signals that come
while it runs, and the callbacks that the event loop queues for them. The loop learns of a
signal only when it reads its wake-up socket; where it finds no handler then, it drops the
signal.
-/

namespace Aiodrive.HandleSignal

open UseScope (Scope Ending Request useScope scopeRequests externalRequests keptRequests)

variable {ε : Type*}

/-- How `handle_signal()` ends. -/
inductive Exit (ε : Type*) where
  | returned
  | suppressed
  | cancelledError
  | signalHandledException (signal : Nat)
  | raised (error : ε)
deriving DecidableEq, Repr

/-- A request on the task of the body: by a callback, or by anyone else. -/
inductive Made where
  | callback (signal : Nat)
  | external (message : Option String)
deriving DecidableEq, Repr

/-- Where the task is: in the body, or past the end of the context. -/
inductive Place (ε : Type*) where
  | inside
  | left (ending : Ending ε) (exit : Exit ε)
deriving DecidableEq, Repr

/-- `registered` is whether the loop has the signal handlers. `came` are the signals that it has
not read yet, `queue` those whose callbacks it has queued, `late` those whose callbacks ran
after the end, and `dropped` those that it read when the handlers were removed. `made` are the
requests in the body, in order.
-/
structure State (ε : Type*) where
  signalCodes : List Nat
  registered : Bool
  came : List Nat
  queue : List Nat
  handledSignalCode : Option Nat
  exited : Bool
  scope : Scope
  task : Task
  place : Place ε
  made : List Made
  late : List Nat
  dropped : List Nat
deriving DecidableEq

/-- What can happen: a signal comes for which there is a handler; the loop reads the next signal, or
runs the next callback; somebody else cancels the task; the body ends.
-/
inductive Event (ε : Type*) where
  | arrives (signal : Nat)
  | dispatches
  | runs
  | cancel (message : Option String)
  | ends (ending : Ending ε)
deriving DecidableEq, Repr

/-- `f"Signal {rec_signal_code} received"` -/
def receivedMessage (signal : Nat) : String := s!"Signal {signal} received"

/-- The start of the body; `unread` are signals of an earlier context that the loop has not read. -/
def State.initial (signalCodes unread : List Nat) (task : Task) : State ε :=
  { signalCodes, registered := true, came := unread.filter (fun signal => signal ∈ signalCodes),
    queue := [], handledSignalCode := none, exited := false,
    scope := { cancellationCount := 0, exited := false }, task, place := .inside, made := [],
    late := [], dropped := [] }

/-- `callback(rec_signal_code)`; the scope is not exited where `exited` is not set. -/
def State.callback (state : State ε) (signal : Nat) : State ε :=
  let state := { state with handledSignalCode := some signal }
  if state.exited then
    { state with late := state.late ++ [signal] }
  else
    match state.scope.cancel state.task (some (receivedMessage signal)) with
    | .ok (scope, task) => { state with scope, task, made := state.made ++ [.callback signal] }
    | .error _ => state

/-- The end of `handle_signal()` past its scope. -/
def conclude (handledSignalCode : Option Nat) : UseScope.Exit ε → Exit ε
  | .returned => (handledSignalCode.map .signalHandledException).getD .returned
  | .suppressed => (handledSignalCode.map .signalHandledException).getD .suppressed
  | .cancelledError => .cancelledError
  | .raised error => .raised error

/-- The `finally` of the body, the exit of the scope and what follows, without a suspension. -/
def State.exit (state : State ε) (ending : Ending ε) : State ε :=
  let left := UseScope.exit state.scope state.task ending
  { state with
    registered := false
    exited := true
    scope := left.1
    task := left.2.1
    place := .left ending (conclude state.handledSignalCode left.2.2) }

def step (state : State ε) : Event ε → Option (State ε)
  | .arrives signal =>
      if state.registered ∧ signal ∈ state.signalCodes then
        some { state with came := state.came ++ [signal] }
      else
        none
  -- `_handle_signal()` of asyncio
  | .dispatches =>
      match state.came with
      | signal :: came =>
          if state.registered then
            some { state with came, queue := state.queue ++ [signal] }
          else
            some { state with came, dropped := state.dropped ++ [signal] }
      | [] => none
  | .runs =>
      match state.queue with
      | signal :: queue => some (State.callback { state with queue } signal)
      | [] => none
  | .cancel message =>
      match state.place with
      | .inside =>
          some { state with
            task := state.task.cancel message
            made := state.made ++ [.external message] }
      | .left _ _ => none
  | .ends ending =>
      match state.place with
      | .inside => some (state.exit ending)
      | .left _ _ => none

/-- The request as the scope sees it. -/
def Made.request : Made → Request
  | callback signal => .scope (some (receivedMessage signal))
  | external message => .external message

def Made.signal? : Made → Option Nat
  | callback signal => some signal
  | external _ => none

/-- The signals whose callbacks ran in the body. -/
def signals (made : List Made) : List Nat := made.filterMap Made.signal?

/-- The requests of others. -/
def externals (made : List Made) : Nat := externalRequests (made.map Made.request)

def Event.signal? : Event ε → Option Nat
  | arrives signal => some signal
  | dispatches | runs | cancel _ | ends _ => none

/-- The signals that came while there were handlers. -/
def arrivals (events : List (Event ε)) : List Nat := events.filterMap Event.signal?

/-- The signals that the loop has read for the context, in order: their callbacks ran in the body or
after it, or will run.
-/
def State.dispatched (state : State ε) : List Nat :=
  signals state.made ++ state.late ++ state.queue

-----------------------------------------------------------------------------------------
-- The body as a use of its scope
-----------------------------------------------------------------------------------------

theorem scopeRequests_map_request (made : List Made)
    : scopeRequests (made.map Made.request) = (signals made).length := by
  induction made with
  | nil => rfl
  | cons first rest ih =>
      cases first with
      | callback signal =>
          rw [List.map_cons, Made.request, UseScope.scopeRequests_scope, ih]
          rfl
      | external message =>
          rw [List.map_cons, Made.request, UseScope.scopeRequests_external, ih]
          rfl

/-- What holds while a context is used in a task: the scope and the task are those of the
requests so far, and past its end it ended as `use_scope()` does on them.
-/
structure Uses (task : Task) (state : State ε) : Prop where
  inside
    : state.place = .inside
      → (state.made.map Made.request).foldl Request.make
            ({ cancellationCount := 0, exited := false }, task)
          = (state.scope, state.task)
        ∧ state.exited = false
        ∧ state.registered = true
        ∧ state.handledSignalCode = (signals state.made).getLast?
        ∧ state.late = []
        ∧ state.dropped = []
  left
    : ∀ ending exit,
        state.place = .left ending exit
        → state.exited = true
          ∧ state.registered = false
          ∧ state.task = (useScope task (state.made.map Made.request) ending).2.1
          ∧ exit
            = conclude (signals state.made).getLast?
                (useScope task (state.made.map Made.request) ending).2.2

theorem Uses.initial (signalCodes unread : List Nat) (task : Task)
    : Uses task (State.initial signalCodes unread task : State ε) :=
  ⟨fun _ => ⟨rfl, rfl, rfl, rfl, rfl, rfl⟩, by simp [State.initial]⟩

/-- The scope is not exited before the end of the body. -/
theorem Uses.scope_exited {task : Task} {state : State ε} (uses : Uses task state)
    (here : state.place = .inside)
    : state.scope.exited = false := by
  have shape := UseScope.foldl_make 0 task (state.made.map Made.request)
  rw [(uses.inside here).1] at shape
  rw [shape.1]

/-- A callback in the body asks the task to cancel through the scope. -/
theorem callback_inside {task : Task} {state : State ε} (uses : Uses task state)
    (here : state.place = .inside) (signal : Nat) (queue : List Nat)
    : State.callback { state with queue } signal
      = { state with
          queue
          handledSignalCode := some signal
          scope :=
            { state.scope with cancellationCount := state.scope.cancellationCount + 1 }
          task := state.task.cancel (some (receivedMessage signal))
          made := state.made ++ [.callback signal] } := by
  simp [State.callback, (uses.inside here).2.1, Scope.cancel, uses.scope_exited here]

theorem inside_or_left (state : State ε)
    : state.place = .inside ∨ ∃ ending exit, state.place = .left ending exit := by
  cases state.place <;> simp

/-- The steps: a signal is dispatched in the body and dropped past it, and a callback asks the
task of the body to cancel or comes too late.
-/
inductive Move (state : State ε) : Event ε → State ε → Prop where
  | arrives {signal : Nat} (registered : state.registered = true)
    (handled : signal ∈ state.signalCodes)
    : Move state (.arrives signal) { state with came := state.came ++ [signal] }
  | dispatches {signal : Nat} {came : List Nat} (here : state.place = .inside)
    (first : state.came = signal :: came)
    : Move state .dispatches { state with came, queue := state.queue ++ [signal] }
  | drops {signal : Nat} {came : List Nat} (removed : state.registered = false)
    (first : state.came = signal :: came)
    : Move state .dispatches { state with came, dropped := state.dropped ++ [signal] }
  | asks {signal : Nat} {queue : List Nat} (here : state.place = .inside)
    (first : state.queue = signal :: queue)
    : Move state .runs
        { state with
          queue
          handledSignalCode := some signal
          scope :=
            { state.scope with cancellationCount := state.scope.cancellationCount + 1 }
          task := state.task.cancel (some (receivedMessage signal))
          made := state.made ++ [.callback signal] }
  | comesLate {signal : Nat} {queue : List Nat} (exited : state.exited = true)
    (first : state.queue = signal :: queue)
    : Move state .runs
        { state with queue, handledSignalCode := some signal, late := state.late ++ [signal] }
  | cancels {message : Option String} (here : state.place = .inside)
    : Move state (.cancel message)
        { state with
          task := state.task.cancel message
          made := state.made ++ [.external message] }
  | ends {ending : Ending ε} (here : state.place = .inside)
    : Move state (.ends ending) (state.exit ending)

/-- Every step is one of the moves. -/
theorem Uses.move {task : Task} {state next : State ε} {event : Event ε}
    (uses : Uses task state) (stepped : step state event = some next)
    : Move state event next := by
  cases event with
  | arrives signal =>
      obtain ⟨⟨registered, handled⟩, same⟩ := Option.ite_none_right_eq_some.mp stepped
      exact Option.some.inj same ▸ .arrives registered handled
  | dispatches =>
      simp only [HandleSignal.step] at stepped
      split at stepped
      · rename_i first
        rcases inside_or_left state with here | ⟨ending, exit, left⟩
        · rw [if_pos (uses.inside here).2.2.1] at stepped
          exact Option.some.inj stepped ▸ .dispatches here first
        · have removed := (uses.left ending exit left).2.1
          rw [if_neg (by simp [removed])] at stepped
          exact Option.some.inj stepped ▸ .drops removed first
      · contradiction
  | runs =>
      simp only [HandleSignal.step] at stepped
      split at stepped
      · rename_i signal queue first
        obtain rfl := Option.some.inj stepped
        rcases inside_or_left state with here | ⟨ending, exit, left⟩
        · exact callback_inside uses here signal queue ▸ .asks here first
        · have exited := (uses.left ending exit left).1
          have late
              : State.callback { state with queue } signal
                = { state with
                    queue
                    handledSignalCode := some signal
                    late := state.late ++ [signal] } := by
            simp [State.callback, exited]
          exact late ▸ .comesLate exited first
      · contradiction
  | cancel message =>
      simp only [HandleSignal.step] at stepped
      split at stepped
      · exact Option.some.inj stepped ▸ .cancels ‹_›
      · contradiction
  | ends ending =>
      simp only [HandleSignal.step] at stepped
      split at stepped
      · exact Option.some.inj stepped ▸ .ends ‹_›
      · contradiction

/-- Each step keeps what holds of the use of the context. -/
theorem Uses.step {task : Task} {state next : State ε} {event : Event ε}
    (uses : Uses task state) (stepped : step state event = some next)
    : Uses task next := by
  cases uses.move stepped with
  | arrives | dispatches => exact ⟨uses.inside, uses.left⟩
  | drops removed =>
      refine ⟨fun here => ?_, uses.left⟩
      have registered := (uses.inside here).2.2.1
      simp [removed] at registered
  | @asks signal queue here first =>
      obtain ⟨folded, exited, registered, handled, settled⟩ := uses.inside here
      refine ⟨fun _ => ⟨?_, exited, registered, ?_, settled⟩, by simp [here]⟩
      · simp [List.foldl_append, folded, Made.request, Request.make, Scope.cancel,
          uses.scope_exited here, Except.toOption]
      · simp [signals, Made.signal?]
  | comesLate exited =>
      refine ⟨fun here => ?_, uses.left⟩
      have unexited := (uses.inside here).2.1
      simp [exited] at unexited
  | cancels here =>
      obtain ⟨folded, exited, registered, handled, settled⟩ := uses.inside here
      refine ⟨fun _ => ⟨?_, exited, registered, ?_, settled⟩, by simp [here]⟩
      · simp [List.foldl_append, folded, Made.request, Request.make]
      · simpa [signals, Made.signal?] using handled
  | @ends ending here =>
      obtain ⟨folded, exited, registered, handled, settled⟩ := uses.inside here
      refine ⟨by simp [State.exit], fun other exit same => ?_⟩
      simp only [State.exit, Place.left.injEq] at same
      obtain ⟨rfl, rfl⟩ := same
      have used
          : useScope task (state.made.map Made.request) ending
            = UseScope.exit state.scope state.task ending := by
        simp only [useScope, folded]
      refine ⟨rfl, rfl, ?_, ?_⟩
      · rw [State.exit, used]
      · rw [State.exit, used, ← handled]

/-- A step reads no signal twice: what the loop has read, dropped and not read yet grows by the
signal that comes, if one does.
-/
theorem step_accounts {task : Task} {state next : State ε} {event : Event ε}
    (uses : Uses task state) (stepped : step state event = some next)
    : next.dispatched ++ next.dropped ++ next.came
      = state.dispatched ++ state.dropped ++ state.came ++ event.signal?.toList := by
  cases uses.move stepped with
  | arrives => simp [State.dispatched, Event.signal?]
  | dispatches here first =>
      have dropped := (uses.inside here).2.2.2.2.2
      simp [State.dispatched, Event.signal?, first, dropped]
  | drops removed first => simp [State.dispatched, Event.signal?, first]
  | asks here first =>
      have late := (uses.inside here).2.2.2.2.1
      simp [State.dispatched, Event.signal?, first, late, signals, Made.signal?]
  | comesLate exited first => simp [State.dispatched, Event.signal?, first]
  | cancels => simp [State.dispatched, Event.signal?, signals, Made.signal?]
  | ends => simp [State.exit, State.dispatched, Event.signal?]

/-- No signal is handled twice: those that came are those that the loop has read for the context,
those that it dropped and those that it has not read yet, in order.
-/
theorem arrivals_of_run {signalCodes unread : List Nat} {task : Task} {events : List (Event ε)}
    {final : State ε}
    (reached : Transition.run step (.initial signalCodes unread task) events = some final)
    : Uses task final
      ∧ unread.filter (fun signal => signal ∈ signalCodes) ++ arrivals events
        = final.dispatched ++ final.dropped ++ final.came := by
  refine Transition.run_preserves_history
    (P := fun past state =>
      Uses task state
      ∧ unread.filter (fun signal => signal ∈ signalCodes) ++ arrivals past
        = state.dispatched ++ state.dropped ++ state.came)
    (fun past state event next holds stepped => ?_)
    ⟨.initial signalCodes unread task, List.append_nil _⟩ reached
  obtain ⟨uses, accounted⟩ := holds
  refine ⟨uses.step stepped, ?_⟩
  rw [step_accounts uses stepped, ← accounted, arrivals, List.filterMap_append, ← arrivals,
    List.append_assoc]
  cases here : event.signal? <;> simp [here]

/-- Past the end of the context a step reads no signal for it. -/
theorem step_left {task : Task} {state next : State ε} {event : Event ε} {ending : Ending ε}
    {exit : Exit ε} (uses : Uses task state) (left : state.place = .left ending exit)
    (stepped : step state event = some next)
    : next.place = .left ending exit
      ∧ next.dispatched = state.dispatched
      ∧ next.dropped ++ next.came = state.dropped ++ state.came := by
  obtain ⟨exited, removed, -⟩ := uses.left ending exit left
  cases uses.move stepped with
  | arrives registered => simp [removed] at registered
  | drops removed first => exact ⟨left, rfl, by simp [first]⟩
  | comesLate exited first => exact ⟨left, by simp [State.dispatched, first], rfl⟩
  | dispatches here | asks here | cancels here | ends here => simp [left] at here

/-- What the loop has not read when a context is left gets no callback, however long it goes on. -/
theorem run_left {task : Task} {state final : State ε} {events : List (Event ε)}
    {ending : Ending ε} {exit : Exit ε} (uses : Uses task state)
    (left : state.place = .left ending exit) (ran : Transition.run step state events = some final)
    : final.place = .left ending exit
      ∧ final.dispatched = state.dispatched
      ∧ final.dropped ++ final.came = state.dropped ++ state.came := by
  have kept := Transition.run_preserves
    (P := fun next =>
      Uses task next
      ∧ next.place = .left ending exit
      ∧ next.dispatched = state.dispatched
      ∧ next.dropped ++ next.came = state.dropped ++ state.came)
    (fun next event later holds stepped => ?_) ⟨uses, left, rfl, rfl⟩ ran
  · exact kept.2
  · obtain ⟨uses, here, read, unread⟩ := holds
    obtain ⟨stays, same, rest⟩ := step_left uses here stepped
    exact ⟨uses.step stepped, stays, same.trans read, rest.trans unread⟩

-----------------------------------------------------------------------------------------
-- How a context ends
-----------------------------------------------------------------------------------------

/-- The scope raises a `CancelledError` of its body again if a request is left. -/
theorem useScope_exit (task : Task) (requests : List Request) (ending : Ending ε)
    : (useScope task requests ending).2.2
      = match ending with
        | .returned => .returned
        | .raised error => .raised error
        | .cancelledError =>
            if task.cancelling = 0 ∧ externalRequests requests = 0 then .suppressed
            else .cancelledError := by
  cases ending with
  | returned => rfl
  | raised error => rfl
  | cancelledError =>
      have suppressed := UseScope.useScope_suppressed_iff (ε := ε) task requests
      have either
          : (useScope task requests (.cancelledError : Ending ε)).2.2 = .suppressed
            ∨ (useScope task requests (.cancelledError : Ending ε)).2.2 = .cancelledError := by
        simp only [useScope, UseScope.exit]
        split <;> simp
      by_cases alone : task.cancelling = 0 ∧ externalRequests requests = 0
      · simpa only [if_pos alone] using suppressed.mpr alone
      · simpa only [if_neg alone] using either.resolve_left (fun same => alone (suppressed.mp same))

/-- Nobody but the signals asked for the `CancelledError` that the body ended with, if it did. -/
def Alone (task : Task) (made : List Made) : Ending ε → Prop
  | .returned => True
  | .cancelledError => task.cancelling = 0 ∧ externals made = 0
  | .raised _ => False

/-- The requests of the signals that are left on the task past the context. -/
def outstanding (made : List Made) : Ending ε → Nat
  | .cancelledError => 0
  | .returned | .raised _ => (signals made).length

/-- In every order of signals, callbacks and other requests, `handle_signal()` ends with a
`SignalHandledException` exactly where a callback ran in the body and the body returned, or
ended with a `CancelledError` that only signals asked for; the exception names the last signal
of those. It passes any other exception on, and any other `CancelledError`; it takes its own
requests back exactly where the body ended with a `CancelledError`. Each signal that came has
had its callback in the body or after it, waits for it, or was not read by the loop when the
context was left; those get none, whatever follows.
-/
theorem handleSignal_exit {signalCodes unread : List Nat} {task : Task} {events : List (Event ε)}
    {final : State ε} {ending : Ending ε} {exit : Exit ε}
    (reached : Transition.run step (.initial signalCodes unread task) events = some final)
    (left : final.place = .left ending exit)
    : (∀ signal,
        exit = .signalHandledException signal
        ↔ (signals final.made).getLast? = some signal ∧ Alone task final.made ending)
      ∧ (exit = .cancelledError ↔ ending = .cancelledError ∧ ¬Alone task final.made ending)
      ∧ (∀ error, exit = .raised error ↔ ending = .raised error)
      ∧ final.task.cancelling
        = task.cancelling + externals final.made
          + outstanding final.made ending
      ∧ unread.filter (fun signal => signal ∈ signalCodes) ++ arrivals events
        = final.dispatched ++ final.dropped ++ final.came
      ∧ ∀ more last,
          Transition.run step final more = some last
          → last.place = .left ending exit
            ∧ last.dispatched = final.dispatched
            ∧ last.dropped ++ last.came = final.dropped ++ final.came := by
  obtain ⟨uses, accounted⟩ := arrivals_of_run reached
  have settled : ∀ more last, Transition.run step final more = some last → _ :=
    fun _ _ => run_left uses left
  obtain ⟨-, -, same, rfl⟩ := uses.left ending exit left
  have count := UseScope.useScope_cancelling task (final.made.map Made.request) ending
  rw [← same] at count
  rw [useScope_exit] at settled ⊢
  cases ending with
  | returned =>
      simp only [keptRequests, scopeRequests_map_request] at count
      refine ⟨?_, ?_, ?_, by simpa [outstanding, externals] using count, accounted, settled⟩
      all_goals
        cases last : (signals final.made).getLast? <;> simp [conclude, Alone]
  | raised error =>
      simp only [keptRequests, scopeRequests_map_request] at count
      refine ⟨?_, ?_, ?_, by simpa [outstanding, externals] using count, accounted, settled⟩
      all_goals simp [conclude, Alone]
  | cancelledError =>
      refine ⟨?_, ?_, ?_, by simpa [keptRequests, outstanding, externals] using count, accounted,
        settled⟩
      all_goals
        by_cases alone : task.cancelling = 0 ∧ externalRequests (final.made.map Made.request) = 0
        · cases last : (signals final.made).getLast? <;> simp [conclude, Alone, externals, alone]
        · simp [conclude, Alone, externals, alone]

/-- A body that two signals interrupt, and a third that the loop has not read when it ends. -/
theorem handleSignal_exit_twice
    : ∃ final : State String,
        Transition.run step (.initial [2, 15] [] { cancelling := 0, message := none })
            [.arrives 2, .arrives 15, .dispatches, .dispatches, .runs, .runs, .arrives 2,
              .ends .cancelledError]
          = some final
        ∧ (∀ signal,
            .signalHandledException 15 = (.signalHandledException signal : Exit String)
            ↔ (signals final.made).getLast? = some signal
              ∧ Alone { cancelling := 0, message := none } final.made
                  (.cancelledError : Ending String)) := by
  have reached
      : Transition.run step (.initial [2, 15] [] { cancelling := 0, message := none })
          [.arrives 2, .arrives 15, .dispatches, .dispatches, .runs, .runs, .arrives 2,
            .ends (.cancelledError : Ending String)]
        = some _ :=
    rfl
  exact ⟨_, reached, (handleSignal_exit reached rfl).1⟩

-----------------------------------------------------------------------------------------
-- A body that blocks
-----------------------------------------------------------------------------------------

/-- While only signals come, the loop reads none of them. -/
theorem run_arrivals {signalCodes unread came : List Nat} {task : Task} {middle : State ε}
    (reached
      : Transition.run step (.initial signalCodes unread task) (came.map Event.arrives)
        = some middle)
    : middle.place = .inside ∧ middle.made = [] ∧ middle.dispatched = [] := by
  refine Transition.run_preserves_of_mem
    (P := fun state : State ε => state.place = .inside ∧ state.made = [] ∧ state.dispatched = [])
    (fun state event member next holds stepped => ?_) ⟨rfl, rfl, rfl⟩ reached
  obtain ⟨signal, -, rfl⟩ := List.mem_map.mp member
  simp only [step] at stepped
  split at stepped
  · obtain rfl := Option.some.inj stepped
    exact holds
  · contradiction

/-- A body that never gives control back to the loop is left as if no signal had come: no
`SignalHandledException` is raised, whatever signals came and however the body ends, and no callback
runs later. The docstring says that the exception is raised all the same.
-/
theorem blocking_unheard {signalCodes unread came : List Nat} {task : Task} {ending : Ending ε}
    {final : State ε}
    (reached
      : Transition.run step (.initial signalCodes unread task)
          (came.map Event.arrives ++ [.ends ending])
        = some final)
    : final.place = .left ending (conclude none (useScope task [] ending).2.2)
      ∧ ∀ more last,
          Transition.run step final more = some last
          → last.place = final.place ∧ last.dispatched = [] := by
  obtain ⟨middle, ran, ended⟩ := Transition.run_append_iff.mp reached
  obtain ⟨next, stepped, stays⟩ := Transition.run_cons_iff.mp ended
  obtain rfl := Option.some.inj stays
  obtain ⟨inside, unmade, unread⟩ := run_arrivals ran
  have uses := (arrivals_of_run reached).1
  have finished : next = middle.exit ending := by
    simpa [step, inside, eq_comm] using stepped
  obtain ⟨exit, left⟩ : ∃ exit, next.place = .left ending exit := ⟨_, by rw [finished]; rfl⟩
  have made : next.made = [] := by rw [finished]; exact unmade
  have read : next.dispatched = [] := by rw [finished]; exact unread
  obtain ⟨-, -, -, same⟩ := uses.left ending exit left
  rw [made] at same
  refine ⟨by rw [left, same]; rfl, fun more last later => ?_⟩
  obtain ⟨kept, unheard, -⟩ := run_left uses left later
  exact ⟨kept.trans left.symm, unheard.trans read⟩

/-- One signal during a body that returns without a suspension. -/
theorem blocking_unheard_once
    : ∃ final : State String,
        Transition.run step (.initial [2] [] { cancelling := 0, message := none })
            ([2].map Event.arrives ++ [.ends .returned])
          = some final
        ∧ final.place = .left .returned .returned := by
  have reached
      : Transition.run step (.initial [2] [] { cancelling := 0, message := none })
          ([2].map Event.arrives ++ [.ends (.returned : Ending String)])
        = some _ :=
    rfl
  exact ⟨_, reached, (blocking_unheard reached).1⟩

end Aiodrive.HandleSignal
