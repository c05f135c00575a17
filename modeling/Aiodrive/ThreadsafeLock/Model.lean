import Aiodrive.Asyncio.Future
import Aiodrive.Transition.Runs
import Mathlib.Logic.Function.Basic

/-! `ThreadsafeLock` of `modules/thread_safe_lock.py`, with its clients: threads that use
`acquire_sync()` and tasks that use `acquire_async()`. A block under `_state_lock` is one step,
but for the one that stops at `self._sync_lock.acquire()`; what other clients do meanwhile
without `_state_lock` comes to the same before or after the block.
-/

namespace Aiodrive.ThreadsafeLock

variable {κ : Type*} [DecidableEq κ]

/-- Where a client is: in neither of `acquire` and the lock; at `self._sync_lock.acquire()`
under `_state_lock`, or outside it; past the latter, before it lowers `_sync_waiter_count`; at
`await future`, cancelled or not since the future was done; or in the lock.
-/
inductive Client where
  | idle
  | entering
  | syncWaiting
  | syncTaken
  | asyncWaiting (future : Nat) (mustCancel : Bool)
  | holding
deriving DecidableEq, Repr

/-- The lock, the futures created for it, each with its loop, and the calls of `set_result`
that `call_soon_threadsafe()` accepted and the loops did not run yet.
-/
structure State (κ : Type*) where
  locked : Bool
  waiters : List Nat
  stateLock : Option κ
  syncLock : Bool
  syncWaiterCount : Int
  futures : Nat → FutureState Empty Unit
  loopOf : Nat → Nat
  futureCount : Nat
  scheduled : List Nat
  closedLoop : Nat → Bool
  clients : κ → Client

def State.initial : State κ :=
  { locked := false, waiters := [], stateLock := none, syncLock := false,
    syncWaiterCount := 0, futures := fun _ => .pending, loopOf := fun _ => 0,
    futureCount := 0, scheduled := [], closedLoop := fun _ => false,
    clients := fun _ => .idle }

/-- What can happen: a client calls one of the two `acquire`, gets `_sync_lock` inside one of
them, lowers `_sync_waiter_count`, or releases the lock; a loop runs `set_result` or closes; a
task in `await future` is cancelled or resumes.
-/
inductive Event (κ : Type*) where
  | acquireSync (client : κ)
  | acquireAsync (client : κ) (loop : Nat)
  | enter (client : κ)
  | takeSync (client : κ)
  | lowerCount (client : κ)
  | release (client : κ)
  | setResult (future : Nat)
  | closeLoop (loop : Nat)
  | cancel (client : κ)
  | resume (client : κ)
deriving Repr

/-- The client that takes the step, if it is not one of an event loop. -/
def Event.client? : Event κ → Option κ
  | acquireSync client | acquireAsync client _ | enter client | takeSync client
  | lowerCount client | release client | cancel client | resume client => some client
  | setResult _ | closeLoop _ => none

def State.setClient (state : State κ) (client : κ) (place : Client) : State κ :=
  { state with clients := Function.update state.clients client place }

section

variable (state : State κ) (client : κ) (place : Client)

@[simp] theorem State.locked_setClient
    : (state.setClient client place).locked = state.locked :=
  rfl

@[simp] theorem State.waiters_setClient
    : (state.setClient client place).waiters = state.waiters :=
  rfl

@[simp] theorem State.stateLock_setClient
    : (state.setClient client place).stateLock = state.stateLock :=
  rfl

@[simp] theorem State.syncLock_setClient
    : (state.setClient client place).syncLock = state.syncLock :=
  rfl

@[simp] theorem State.syncWaiterCount_setClient
    : (state.setClient client place).syncWaiterCount = state.syncWaiterCount :=
  rfl

@[simp] theorem State.futures_setClient
    : (state.setClient client place).futures = state.futures :=
  rfl

@[simp] theorem State.loopOf_setClient
    : (state.setClient client place).loopOf = state.loopOf :=
  rfl

@[simp] theorem State.futureCount_setClient
    : (state.setClient client place).futureCount = state.futureCount :=
  rfl

@[simp] theorem State.scheduled_setClient
    : (state.setClient client place).scheduled = state.scheduled :=
  rfl

@[simp] theorem State.closedLoop_setClient
    : (state.setClient client place).closedLoop = state.closedLoop :=
  rfl

@[simp] theorem State.clients_setClient (other : κ)
    : (state.setClient client place).clients other
      = if other = client then place else state.clients other :=
  Function.update_apply ..

end

/-- The first block of `acquire_sync()`, up to `self._sync_lock.acquire()` if it is there. -/
def State.acquireSync (state : State κ) (client : κ) : State κ :=
  if state.locked then
    { state with syncWaiterCount := state.syncWaiterCount + 1 }.setClient client .syncWaiting
  else
    { state with stateLock := some client }.setClient client .entering

/-- The block of `acquire_async()`, up to `self._sync_lock.acquire()` if it is there. -/
def State.acquireAsync (state : State κ) (client : κ) (loop : Nat) : State κ :=
  if state.locked then
    { state with
      loopOf := Function.update state.loopOf state.futureCount loop
      futureCount := state.futureCount + 1
      waiters := state.waiters ++ [state.futureCount]
    }.setClient client (.asyncWaiting state.futureCount false)
  else
    { state with stateLock := some client }.setClient client .entering

/-- The `while` of `release_async()`: the future it breaks at, if any, and the rest of
`_waiters`. `call_soon_threadsafe()` of a closed loop raises `RuntimeError`.
-/
def State.popWaiters (state : State κ) : List Nat → Option Nat × List Nat
  | [] => (none, [])
  | future :: waiters =>
      if (state.futures future).isCancelled then
        state.popWaiters waiters
      else if state.closedLoop (state.loopOf future) then
        state.popWaiters waiters
      else
        (some future, waiters)

def State.releaseAsync (state : State κ) : State κ :=
  match state.popWaiters state.waiters with
  | (some future, waiters) => { state with waiters, scheduled := state.scheduled ++ [future] }
  | (none, waiters) =>
      { state with
        waiters
        locked := if state.syncWaiterCount = 0 then false else state.locked
        syncLock := false }

/-- `future.set_result(None)`; a future that was cancelled raises `InvalidStateError` in its
loop, which goes on.
-/
def State.setResult (state : State κ) (future : Nat) : State κ :=
  { state with
    scheduled := state.scheduled.erase future
    futures :=
      if (state.futures future).done then state.futures
      else Function.update state.futures future (.success ()) }

/-- `Task.cancel()` of a task in `await future`. -/
def State.cancel (state : State κ) (client : κ) (future : Nat) : State κ :=
  if (state.futures future).done then
    state.setClient client (.asyncWaiting future true)
  else
    { state with futures := Function.update state.futures future .cancelled }

def step (state : State κ) : Event κ → Option (State κ)
  | .acquireSync client =>
      if state.clients client = .idle ∧ state.stateLock = none then
        some (state.acquireSync client)
      else
        none
  | .acquireAsync client loop =>
      if state.clients client = .idle ∧ state.stateLock = none
          ∧ state.closedLoop loop = false then
        some (state.acquireAsync client loop)
      else
        none
  | .enter client =>
      if state.clients client = .entering ∧ state.syncLock = false then
        some ({ state with syncLock := true, locked := true, stateLock := none }.setClient
          client .holding)
      else
        none
  | .takeSync client =>
      if state.clients client = .syncWaiting ∧ state.syncLock = false then
        some ({ state with syncLock := true }.setClient client .syncTaken)
      else
        none
  | .lowerCount client =>
      if state.clients client = .syncTaken ∧ state.stateLock = none then
        some ({ state with syncWaiterCount := state.syncWaiterCount - 1 }.setClient
          client .holding)
      else
        none
  | .release client =>
      if state.clients client = .holding ∧ state.stateLock = none then
        some (state.releaseAsync.setClient client .idle)
      else
        none
  | .setResult future =>
      if future ∈ state.scheduled ∧ state.closedLoop (state.loopOf future) = false then
        some (state.setResult future)
      else
        none
  | .closeLoop loop =>
      some { state with closedLoop := Function.update state.closedLoop loop true }
  | .cancel client =>
      match state.clients client with
      | .asyncWaiting future _ => some (state.cancel client future)
      | .idle | .entering | .syncWaiting | .syncTaken | .holding => none
  | .resume client =>
      match state.clients client with
      | .asyncWaiting future mustCancel =>
          if (state.futures future).done ∧ state.closedLoop (state.loopOf future) = false then
            if mustCancel ∨ (state.futures future).isCancelled then
              some (state.setClient client .idle)
            else
              some (state.setClient client .holding)
          else
            none
      | .idle | .entering | .syncWaiting | .syncTaken | .holding => none

-----------------------------------------------------------------------------------------
-- Who owns the lock
-----------------------------------------------------------------------------------------

/-- The lock was handed to a future: `set_result` is on its way, or ran. -/
def State.Handed (state : State κ) (future : Nat) : Prop :=
  future ∈ state.scheduled ∨ state.futures future = .success ()

@[simp] theorem State.handed_setClient (state : State κ) (client : κ) (place : Client)
    (future : Nat)
    : (state.setClient client place).Handed future ↔ state.Handed future :=
  Iff.rfl

/-- The client returned from `acquire`, took `_sync_lock` in it, or awaits a future that the
lock was handed to.
-/
def State.Owns (state : State κ) (client : κ) : Prop :=
  match state.clients client with
  | .holding | .syncTaken => True
  | .asyncWaiting future _ => state.Handed future
  | .idle | .entering | .syncWaiting => False

/-- The client owns the lock, and no cancellation or closed loop keeps it from obtaining it. -/
def State.Obtains (state : State κ) (client : κ) : Prop :=
  match state.clients client with
  | .holding | .syncTaken => True
  | .asyncWaiting future mustCancel =>
      mustCancel = false
      ∧ state.Handed future
      ∧ state.futures future ≠ .cancelled
      ∧ state.closedLoop (state.loopOf future) = false
  | .idle | .entering | .syncWaiting => False

end Aiodrive.ThreadsafeLock
