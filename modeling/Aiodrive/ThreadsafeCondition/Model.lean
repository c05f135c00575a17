import Aiodrive.ThreadsafeLock.Model

/-! `ThreadsafeCondition` of `modules/thread_safe_lock.py` over its `ThreadsafeLock`: threads in
`wait_sync()`, tasks in `wait()`, and notifiers that hold the lock. Everything that is shared
between threads is one step: a step of the lock, or one operation on `_waiters`.
-/

namespace Aiodrive.ThreadsafeCondition

variable {κ : Type*} [DecidableEq κ]

/-- Where a client is: outside the methods of the condition; in `wait_sync()` (no loop) or in
`wait()` past the release of the lock, before its waiter is in `_waiters`; blocked on its
waiter; or in `notify()`, with the rest of the copy of `_waiters`.
-/
inductive Place where
  | outside
  | released (loop : Option Nat)
  | blocked (waiter : Nat)
  | notifying (left : List Nat)
deriving DecidableEq, Repr

/-- `wait_sync()` or `wait()` has released the lock, and has not returned. -/
def Place.waiting : Place → Bool
  | released _ | blocked _ => true
  | outside | notifying _ => false

/-- The lock is released, and the waiter is not in `_waiters` yet. -/
def Place.inWindow : Place → Bool
  | released _ => true
  | outside | blocked _ | notifying _ => false

/-- The condition with its clients. A waiter without a loop is a `ThreadingLock`, which is done
once released; one with a loop is a future of that loop. `scheduled` are the calls of
`set_result` that the loops accepted and did not run yet. `earlier` remembers, for a client,
who was waiting when it last acquired the lock.
-/
structure State (κ : Type*) where
  lock : ThreadsafeLock.State κ
  waiters : List Nat
  waiterCount : Nat
  loopOf : Nat → Option Nat
  futures : Nat → FutureState Empty Unit
  scheduled : List Nat
  places : κ → Place
  earlier : κ → κ → Bool

def State.initial : State κ :=
  { lock := .initial, waiters := [], waiterCount := 0, loopOf := fun _ => none,
    futures := fun _ => .pending, scheduled := [], places := fun _ => .outside,
    earlier := fun _ _ => false }

/-- What can happen: a step of the lock by a client outside the condition; the stages of
`wait_sync()` and `wait()`, up to the first block of the `acquire` in their `finally`; the
stages of `notify()`, whose copy has the waiters in any order; a loop runs `set_result`, and
a task in `await future` is cancelled.
-/
inductive Event (κ : Type*) where
  | lock (event : ThreadsafeLock.Event κ)
  | release (client : κ) (loop : Option Nat)
  | register (client : κ)
  | leave (client : κ)
  | notify (client : κ) (copy : List Nat)
  | wakeNext (client : κ)
  | clear (client : κ)
  | setResult (waiter : Nat)
  | cancel (client : κ)

def State.setPlace (state : State κ) (client : κ) (place : Place) : State κ :=
  { state with places := Function.update state.places client place }

/-- A step of the lock, which notes who waits when a client acquires it. -/
def State.setLock (state : State κ) (lock : ThreadsafeLock.State κ) : State κ :=
  { state with
    lock
    earlier := fun client other =>
      if state.lock.clients client ≠ .holding ∧ lock.clients client = .holding then
        (state.places other).waiting
      else
        state.earlier client other }

section

variable (state : State κ) (client : κ) (place : Place)

@[simp] theorem State.lock_setPlace : (state.setPlace client place).lock = state.lock := rfl

@[simp] theorem State.waiters_setPlace
    : (state.setPlace client place).waiters = state.waiters :=
  rfl

@[simp] theorem State.waiterCount_setPlace
    : (state.setPlace client place).waiterCount = state.waiterCount :=
  rfl

@[simp] theorem State.places_setPlace (other : κ)
    : (state.setPlace client place).places other
      = if other = client then place else state.places other :=
  Function.update_apply ..

end

/-- `self._waiters.add(waiter)` of a new waiter. -/
def State.register (state : State κ) (client : κ) (loop : Option Nat) : State κ :=
  { state with
    waiters := state.waiters ++ [state.waiterCount]
    waiterCount := state.waiterCount + 1
    loopOf := Function.update state.loopOf state.waiterCount loop
  }.setPlace client (.blocked state.waiterCount)

/-- One pass of the `for` in `notify()`; `call_soon_threadsafe()` of a closed loop raises a
`RuntimeError`, which is passed over.
-/
def State.wake (state : State κ) (waiter : Nat) : State κ :=
  match state.loopOf waiter with
  | none => { state with futures := Function.update state.futures waiter (.success ()) }
  | some loop =>
      if (state.futures waiter).isCancelled then state
      else if state.lock.closedLoop loop then state
      else { state with scheduled := state.scheduled ++ [waiter] }

/-- `waiter.set_result(None)`; a cancelled future raises `InvalidStateError` in its loop. -/
def State.setResult (state : State κ) (waiter : Nat) : State κ :=
  { state with
    scheduled := state.scheduled.erase waiter
    futures :=
      if (state.futures waiter).done then state.futures
      else Function.update state.futures waiter (.success ()) }

/-- The first block of the `acquire` in the `finally` of `wait_sync()` or `wait()`. -/
def reacquire (client : κ) : Option Nat → ThreadsafeLock.Event κ
  | none => .acquireSync client
  | some loop => .acquireAsync client loop

def step (state : State κ) : Event κ → Option (State κ)
  | .lock event =>
      match event.client? with
      | some client =>
          if state.places client = .outside then
            (ThreadsafeLock.step state.lock event).map state.setLock
          else
            none
      | none => (ThreadsafeLock.step state.lock event).map state.setLock
  | .release client loop =>
      if state.places client = .outside then
        (ThreadsafeLock.step state.lock (.release client)).map
          (fun lock => (state.setLock lock).setPlace client (.released loop))
      else
        none
  | .register client =>
      match state.places client with
      | .released loop => some (state.register client loop)
      | .outside | .blocked _ | .notifying _ => none
  | .leave client =>
      match state.places client with
      | .blocked waiter =>
          if (state.futures waiter).done then
            (ThreadsafeLock.step state.lock (reacquire client (state.loopOf waiter))).map
              (state.setPlace client .outside).setLock
          else
            none
      | .outside | .released _ | .notifying _ => none
  | .notify client copy =>
      if state.places client = .outside ∧ state.lock.clients client = .holding
          ∧ copy.Perm state.waiters then
        some (state.setPlace client (.notifying copy))
      else
        none
  | .wakeNext client =>
      match state.places client with
      | .notifying (waiter :: left) =>
          some ((state.wake waiter).setPlace client (.notifying left))
      | .outside | .released _ | .blocked _ | .notifying [] => none
  | .clear client =>
      match state.places client with
      | .notifying [] => some ({ state with waiters := [] }.setPlace client .outside)
      | .outside | .released _ | .blocked _ | .notifying (_ :: _) => none
  | .setResult waiter =>
      if waiter ∈ state.scheduled
          ∧ ∀ loop ∈ state.loopOf waiter, state.lock.closedLoop loop = false then
        some (state.setResult waiter)
      else
        none
  | .cancel client =>
      match state.places client with
      | .blocked waiter =>
          if (state.loopOf waiter).isSome then
            -- Once the future is done, `wait()` is on its way to its `finally` already
            if (state.futures waiter).done then some state
            else
              some { state with futures := Function.update state.futures waiter .cancelled }
          else
            none
      | .outside | .released _ | .notifying _ => none

/-- The waiter was released or resolved, is on its way to that, or was cancelled; or its loop
does not run any more.
-/
def State.Awake (state : State κ) (waiter : Nat) : Prop :=
  (state.futures waiter).done = true
  ∨ waiter ∈ state.scheduled
  ∨ ∃ loop, state.loopOf waiter = some loop ∧ state.lock.closedLoop loop = true

@[simp] theorem State.awake_setPlace (state : State κ) (client : κ) (place : Place)
    (waiter : Nat)
    : (state.setPlace client place).Awake waiter ↔ state.Awake waiter :=
  Iff.rfl

end Aiodrive.ThreadsafeCondition
