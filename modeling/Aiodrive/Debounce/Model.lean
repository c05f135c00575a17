import Aiodrive.Asyncio.Future
import Aiodrive.Transition.Runs
import Mathlib.Logic.Function.Basic

/-! `debounce()` of `experiments/debounce.py`: each call asks the task of the call before it to
cancel and creates one of its own, which sleeps before it calls the function.
-/

namespace Aiodrive.Debounce

variable {ε β : Type*}

/-- Where the task of `call_func()` is: before its first step; in `asyncio.sleep(delay)` until some
time, where its timer has fired or not; in the function; or at its end. In each place but the last
it has been asked to cancel or not.
-/
inductive Job (ε β : Type*) where
  | unstarted (asked : Bool)
  | sleeping (wakeAt : Nat) (fired asked : Bool)
  | calling (asked : Bool)
  | ended (result : FutureState ε (Option β))
deriving DecidableEq, Repr

/-- `Task.cancel()` -/
def Job.cancel : Job ε β → Job ε β
  | unstarted _ => unstarted true
  | sleeping wakeAt fired _ => sleeping wakeAt fired true
  | calling _ => calling true
  | ended result => ended result

/-- `Task.done()` -/
def Job.done : Job ε β → Bool
  | ended _ => true
  | unstarted _ | sleeping _ _ _ | calling _ => false

/-- Where `debounced()` is: at `return await task`, with a cancellation of its own on its way or
not; or at its end.
-/
inductive Caller (ε β : Type*) where
  | awaiting (interrupted : Bool)
  | left (outcome : FutureState ε (Option β))
deriving DecidableEq, Repr

/-- A call of `debounced()`, with the time it was made at. -/
structure Call (ε β : Type*) where
  since : Nat
  job : Job ε β
  caller : Caller ε β
deriving DecidableEq, Repr

/-- A call of the function, with the time it was made at. -/
structure Entry where
  call : Nat
  time : Nat
deriving DecidableEq, Repr

/-- The clock of the loop in units of its resolution, the calls made so far in their order, and
those of the function.
-/
structure State (ε β : Type*) where
  now : Nat
  count : Nat
  calls : Nat → Call ε β
  entries : List Entry

def State.initial : State ε β :=
  { now := 0, count := 0, calls := fun _ => ⟨0, .unstarted false, .awaiting false⟩, entries := [] }

/-- The clock goes on; somebody calls `debounced()`. The task of a call makes its first step,
its timer fires, it goes on after it, or the function ends; its caller is cancelled, or goes on.
-/
inductive Event (ε β : Type*) where
  | tick
  | call
  | start (call : Nat)
  | fire (call : Nat)
  | wake (call : Nat)
  | finish (call : Nat) (ended : FutureState ε β)
  | cancel (call : Nat)
  | resume (call : Nat)
deriving DecidableEq, Repr

def State.setJob (state : State ε β) (id : Nat) (job : Job ε β) : State ε β :=
  { state with calls := Function.update state.calls id { state.calls id with job } }

def State.setCaller (state : State ε β) (id : Nat) (caller : Caller ε β) : State ε β :=
  { state with calls := Function.update state.calls id { state.calls id with caller } }

/-- `if (task is not None) and not task.done(): task.cancel()` -/
def State.cancelLast (state : State ε β) : State ε β :=
  match state.count with
  | 0 => state
  | last + 1 => state.setJob last (state.calls last).job.cancel

/-- `task = asyncio.create_task(call_func())` -/
def State.create (state : State ε β) : State ε β :=
  { state with
    count := state.count + 1
    calls :=
      Function.update state.calls state.count ⟨state.now, .unstarted false, .awaiting false⟩ }

/-- What `call_func()` makes of the end of the function. -/
def returned : FutureState ε β → FutureState ε (Option β)
  | .cancelled => .success none
  | .exception error => .exception error
  | .pending => .pending
  | .success value => .success (some value)

/-- The task goes on after its sleep, with a `CancelledError` that it catches or into the
function.
-/
def State.wake (state : State ε β) (id : Nat) (asked : Bool) : State ε β :=
  if asked then state.setJob id (.ended (.success none))
  else
    { state.setJob id (.calling false) with entries := state.entries ++ [⟨id, state.now⟩] }

/-- `Task.cancel()` of the task of a caller, which asks the task that it awaits first. -/
def State.cancel (state : State ε β) (id : Nat) : State ε β :=
  if (state.calls id).job.done then state.setCaller id (.awaiting true)
  else state.setJob id (state.calls id).job.cancel

def stepCall (delay : Nat) (state : State ε β) : Event ε β → Option (State ε β)
  | .tick => some { state with now := state.now + 1 }
  | .call => some state.cancelLast.create
  | .start id =>
      match (state.calls id).job with
      | .unstarted asked =>
          some (state.setJob id
            (if asked then .ended .cancelled else .sleeping (state.now + delay) false false))
      | .sleeping _ _ _ | .calling _ | .ended _ => none
  | .fire id =>
      match (state.calls id).job with
      | .sleeping wakeAt false false =>
          if wakeAt ≤ state.now then some (state.setJob id (.sleeping wakeAt true false)) else none
      | .sleeping _ true _ | .sleeping _ _ true | .unstarted _ | .calling _ | .ended _ => none
  | .wake id =>
      match (state.calls id).job with
      | .sleeping _ fired asked => if fired || asked then some (state.wake id asked) else none
      | .unstarted _ | .calling _ | .ended _ => none
  | .finish id ended =>
      match (state.calls id).job with
      | .calling _ =>
          if ended.done then some (state.setJob id (.ended (returned ended))) else none
      | .unstarted _ | .sleeping _ _ _ | .ended _ => none
  | .cancel id =>
      match (state.calls id).caller with
      | .awaiting _ => some (state.cancel id)
      | .left _ => none
  | .resume id =>
      match (state.calls id).caller, (state.calls id).job with
      | .awaiting interrupted, .ended result =>
          some (state.setCaller id (.left (if interrupted then .cancelled else result)))
      | .awaiting _, .unstarted _ | .awaiting _, .sleeping _ _ _ | .awaiting _, .calling _
      | .left _, _ => none

/-- The call that an event is about. -/
def Event.call? : Event ε β → Option Nat
  | .tick | .call => none
  | .start id | .fire id | .wake id | .finish id _ | .cancel id | .resume id => some id

/-- A step, of a call that has been made. -/
def step (delay : Nat) (state : State ε β) (event : Event ε β) : Option (State ε β) :=
  if ∀ id ∈ event.call?, id < state.count then stepCall delay state event else none

-----------------------------------------------------------------------------------------
-- The steps
-----------------------------------------------------------------------------------------

/-- The steps of the task of a call, one constructor for each branch. -/
inductive JobMove (delay : Nat) (state : State ε β) (id : Nat)
    : Event ε β → Job ε β → Job ε β → Prop where
  | drops : JobMove delay state id (.start id) (.unstarted true) (.ended .cancelled)
  | starts
    : JobMove delay state id (.start id) (.unstarted false)
        (.sleeping (state.now + delay) false false)
  | fires {wakeAt : Nat} (due : wakeAt ≤ state.now)
    : JobMove delay state id (.fire id) (.sleeping wakeAt false false)
        (.sleeping wakeAt true false)
  | catches {wakeAt : Nat} {fired : Bool}
    : JobMove delay state id (.wake id) (.sleeping wakeAt fired true) (.ended (.success none))
  | finishes {ended : FutureState ε β} {asked : Bool} (done : ended.done = true)
    : JobMove delay state id (.finish id ended) (.calling asked) (.ended (returned ended))
  | cancels {job : Job ε β} (undone : job.done = false)
    : JobMove delay state id (.cancel id) job job.cancel

/-- The steps: of the clock, of a new call, of a task alone, of one that enters the function, or
of a caller.
-/
inductive Move (delay : Nat) (state : State ε β) : Event ε β → State ε β → Prop where
  | ticks : Move delay state .tick { state with now := state.now + 1 }
  | calls : Move delay state .call state.cancelLast.create
  | works {id : Nat} {event : Event ε β} {job : Job ε β} (made : id < state.count)
    (moves : JobMove delay state id event (state.calls id).job job)
    : Move delay state event (state.setJob id job)
  | enters {id wakeAt : Nat} (made : id < state.count)
    (here : (state.calls id).job = .sleeping wakeAt true false)
    : Move delay state (.wake id)
        { state.setJob id (.calling false) with entries := state.entries ++ [⟨id, state.now⟩] }
  | interrupts {id : Nat} {interrupted : Bool} {result : FutureState ε (Option β)}
    (made : id < state.count) (waits : (state.calls id).caller = .awaiting interrupted)
    (here : (state.calls id).job = .ended result)
    : Move delay state (.cancel id) (state.setCaller id (.awaiting true))
  | leaves {id : Nat} {interrupted : Bool} {result : FutureState ε (Option β)}
    (made : id < state.count) (waits : (state.calls id).caller = .awaiting interrupted)
    (here : (state.calls id).job = .ended result)
    : Move delay state (.resume id)
        (state.setCaller id (.left (if interrupted then .cancelled else result)))

end Aiodrive.Debounce
