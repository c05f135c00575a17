import Aiodrive.Shield.Wait
import Aiodrive.ThreadsafeCondition.Notify

/-! The waits of a `ThreadsafeCondition` up to their exits, in `modules/thread_safe_lock.py`: the
`finally` that takes the lock back, in a task under a `ShieldContext`, and the release at the end
of the `with` statement.
-/

namespace Aiodrive.ConditionWait

variable {κ : Type*}

/-- Where a client is with its wait: in none; at the waiter, in `wait()` with the cancellation
requests that its `ShieldContext` found, or in `wait_sync()`; at the shield of an acquisition
whose task has not started, or has; at an acquisition that it makes itself; or past the wait,
in the rest of its `with` statement.
-/
inductive Wait where
  | outside
  | waiting (initial : Option Nat)
  | starting (shield : ShieldWait.State Empty Unit)
  | shielded (shield : ShieldWait.State Empty Unit)
  | direct
  | exited
deriving DecidableEq, Repr

/-- The condition with the waits of its clients. `exits` has, for each exit of `wait()` or
`wait_sync()`, where the client was with the lock.
-/
structure State (κ : Type*) where
  condition : ThreadsafeCondition.State κ
  waits : κ → Wait
  exits : List (κ × ThreadsafeLock.Client)

def State.initial : State κ :=
  { condition := .initial, waits := fun _ => .outside, exits := [] }

/-- What can happen: a step of the condition outside of the waits; a client calls `wait_sync()` or
`wait()`; it goes on in the `finally`; the task of an acquisition starts, or an acquisition
goes on; a task in `wait()` is cancelled; what `shield_wait()` does; the release in
`__exit__()` or `__aexit__()` after a wait.
-/
inductive Event (κ : Type*) where
  | other (event : ThreadsafeCondition.Event κ)
  | waitSync (client : κ)
  | wait (client : κ) (loop initial : Nat)
  | reacquire (client : κ)
  | start (client : κ)
  | acquire (event : ThreadsafeLock.Event κ)
  | cancel (client : κ)
  | innerCallback (client : κ)
  | resume (client : κ)
  | release (client : κ)

/-- The `shield_count` that `ShieldContext.shield()` gives to `shield_wait()`. -/
def shieldCount (initialCancellationCount : Nat) : Int := 1 - initialCancellationCount

/-- `shield_wait()` has no iteration left, so that a cancellation goes to the acquisition. -/
def passesOn (shield : ShieldWait.State Empty Unit) : Bool :=
  match shield.place with
  | .passing _ _ => !shield.inner.done
  | .shielding _ _ _ | .exited _ => false

/-- The client whose acquisition goes on with a step of the lock. -/
def acquirer? : ThreadsafeLock.Event κ → Option κ
  | .enter client | .takeSync client | .lowerCount client | .resume client => some client
  | .acquireSync _ | .acquireAsync _ _ | .release _ | .setResult _ | .closeLoop _
  | .cancel _ => none

/-- The end of an acquisition: it returned, or raised the `CancelledError` of its future. -/
def acquisitionEnd : ThreadsafeLock.Client → Option (FutureState Empty Unit)
  | .holding => some (.success ())
  | .idle => some .cancelled
  | .entering | .syncWaiting | .syncTaken | .asyncWaiting _ _ => none

def State.setCondition (state : State κ) (condition : ThreadsafeCondition.State κ)
    : State κ :=
  { state with condition }

@[simp] theorem State.waits_setCondition (state : State κ)
    (condition : ThreadsafeCondition.State κ)
    : (state.setCondition condition).waits = state.waits :=
  rfl

def State.setLock (state : State κ) (lock : ThreadsafeLock.State κ) : State κ :=
  state.setCondition (state.condition.setLock lock)

@[simp] theorem State.lock_setLock (state : State κ) (lock : ThreadsafeLock.State κ)
    : (state.setLock lock).condition.lock = lock :=
  rfl

variable [DecidableEq κ]

def State.setWait (state : State κ) (client : κ) (wait : Wait) : State κ :=
  { state with waits := Function.update state.waits client wait }

@[simp] theorem State.waits_setWait (state : State κ) (client other : κ) (wait : Wait)
    : (state.setWait client wait).waits other
      = if other = client then wait else state.waits other :=
  Function.update_apply ..

/-- `wait()` or `wait_sync()` returns or raises. -/
def State.finish (state : State κ) (client : κ) : State κ :=
  { state.setWait client .exited with
    exits := state.exits ++ [(client, state.condition.lock.clients client)] }

/-- A client may call the methods of the condition outside of its waits. -/
def State.isFree (state : State κ) (client : κ) : Bool :=
  state.waits client = .outside || state.waits client = .exited

/-- The steps of the condition that belong to no wait. The lock is released after a wait by
`__exit__()` or `__aexit__()`.
-/
def State.allows (state : State κ) : ThreadsafeCondition.Event κ → Bool
  | .lock event => event.client?.all (fun client => state.waits client = .outside)
  | .notify client _ | .wakeNext client | .clear client => state.isFree client
  | .register _ | .setResult _ => true
  | .release _ _ | .leave _ | .cancel _ => false

/-- The start of a wait, which releases the lock. -/
def State.beginWait (state : State κ) (client : κ) (loop initial : Option Nat)
    : Option (State κ) :=
  if state.isFree client then
    (ThreadsafeCondition.step state.condition (.release client loop)).map
      (fun condition => (state.setCondition condition).setWait client (.waiting initial))
  else
    none

/-- The waiter is done, and the client can go on in its `finally`. -/
def State.isWoken (state : State κ) (client : κ) : Bool :=
  match state.condition.places client with
  | .blocked waiter =>
      (state.condition.futures waiter).done
        && (state.condition.loopOf waiter).all (fun loop => !state.condition.lock.closedLoop loop)
  | .outside | .released _ | .notifying _ => false

/-- The first block of the acquisition in the `finally`. -/
def State.leave (state : State κ) (client : κ) (wait : Wait) : Option (State κ) :=
  (ThreadsafeCondition.step state.condition (.leave client)).map
    (fun condition => (state.setCondition condition).setWait client wait)

/-- What follows a step of the acquisition, in its task or in the wait itself. -/
def State.acquired (state : State κ) (client : κ) (wait : Wait) : Option (State κ) :=
  match acquisitionEnd (state.condition.lock.clients client) with
  | none => some state
  | some ended =>
      match wait with
      | .shielded shield =>
          (ShieldWait.step shield (.innerEnds ended)).map
            (fun shield => state.setWait client (.shielded shield))
      | .direct => some (state.finish client)
      | .outside | .waiting _ | .starting _ | .exited => none

/-- What follows a resumption of `shield_wait()`. -/
def State.resumed (state : State κ) (client : κ) (shield : ShieldWait.State Empty Unit)
    : State κ :=
  match shield.place with
  | .exited _ => state.finish client
  | .shielding _ _ _ | .passing _ _ => state.setWait client (.shielded shield)

/-- A cancellation of the task at its shield, or at the acquisition itself. -/
def State.cancelShielded (state : State κ) (client : κ)
    (shield : ShieldWait.State Empty Unit)
    : Option (State κ) :=
  (ShieldWait.step shield .cancel).bind (fun next =>
    if passesOn shield then
      (ThreadsafeLock.step state.condition.lock (.cancel client)).map
        (fun lock => (state.setLock lock).setWait client (.shielded next))
    else
      some (state.setWait client (.shielded next)))

def step (state : State κ) : Event κ → Option (State κ)
  | .other event =>
      if state.allows event then
        (ThreadsafeCondition.step state.condition event).map state.setCondition
      else
        none
  | .waitSync client => state.beginWait client none none
  | .wait client loop initial => state.beginWait client (some loop) (some initial)
  | .reacquire client =>
      match state.waits client with
      | .waiting none => state.leave client .direct
      | .waiting (some initial) =>
          if shieldCount initial ≤ 0 then state.leave client .direct
          else if state.isWoken client then
            some (state.setWait client (.starting (.initial (shieldCount initial) .pending)))
          else
            none
      | .outside | .starting _ | .shielded _ | .direct | .exited => none
  | .start client =>
      match state.waits client with
      | .starting shield => state.leave client (.shielded shield)
      | .outside | .waiting _ | .shielded _ | .direct | .exited => none
  | .acquire event =>
      (acquirer? event).bind (fun client =>
        (ThreadsafeLock.step state.condition.lock event).bind (fun lock =>
          match state.waits client with
          | .shielded shield => (state.setLock lock).acquired client (.shielded shield)
          | .direct => (state.setLock lock).acquired client .direct
          | .outside | .waiting _ | .starting _ | .exited => none))
  | .cancel client =>
      match state.waits client with
      | .waiting (some _) =>
          (ThreadsafeCondition.step state.condition (.cancel client)).map state.setCondition
      | .starting shield =>
          -- The task starts before `wait()` can resume
          (ShieldWait.step shield .cancel).map
            (fun shield => state.setWait client (.starting shield))
      | .shielded shield =>
          -- Nobody is cancelled by the loop that is in a block of `acquire_async()`
          if state.condition.lock.clients client = .entering then none
          else state.cancelShielded client shield
      | .direct =>
          (ThreadsafeLock.step state.condition.lock (.cancel client)).map state.setLock
      | .outside | .waiting none | .exited => none
  | .innerCallback client =>
      match state.waits client with
      | .shielded shield =>
          (ShieldWait.step shield .innerCallback).map
            (fun shield => state.setWait client (.shielded shield))
      | .outside | .waiting _ | .starting _ | .direct | .exited => none
  | .resume client =>
      match state.waits client with
      | .shielded shield => (ShieldWait.step shield .resume).map (state.resumed client)
      | .outside | .waiting _ | .starting _ | .direct | .exited => none
  | .release client =>
      -- `release_async()` does not ask who owns the lock
      if state.waits client = .exited ∧ state.condition.lock.stateLock = none then
        some ((state.setLock (state.condition.lock.releaseAsync.setClient client .idle)).setWait
          client .outside)
      else
        none

end Aiodrive.ConditionWait
