import Aiodrive.Cancellation.Scope
import Aiodrive.Dict.Entries
import Aiodrive.Transition.Runs

/-! `SmartLock` of `experiments/smart_lock.py`, with its clients: the calls of `use()`, of any tasks
in any threads, each under its id. What runs under `_sync_lock` is one step, but for an `_update()`
that grants: the loop of the new owner runs between its `call_soon_threadsafe()` and its assignment
to `_owners`.
-/

namespace Aiodrive.SmartLock

open UseScope (Scope)

/-- `SmartLockMode` -/
inductive Mode where
  | exclusive
  | shared
deriving DecidableEq, Repr

/-- `SmartLockWaiter`, but for `scope` and `thread`, which nothing reads. The `future` is part
of the client.
-/
structure Waiter where
  mode : Mode
  weak : Bool
deriving DecidableEq, Repr

/-- `SmartLockOwner` -/
structure Owner where
  contextScope : Option Scope
  waiter : Waiter
deriving DecidableEq, Repr

/-- Where a client is: not there yet; at `await asyncio.shield(waiter.future)`, with the future
resolved or not, and asked to cancel or not; at its `yield`; at the `finally`, where its thread
waits for `_sync_lock`; or past `use()`.
-/
inductive Place where
  | absent
  | waiting (resolved mustCancel : Bool)
  | inside
  | leaving
  | gone
deriving DecidableEq, Repr

structure Client where
  loop : Nat
  place : Place
deriving DecidableEq, Repr

/-- An `_update()` in a thread, that has called `call_soon_threadsafe()` for a waiter and not
yet set its entry of `_owners`.
-/
structure Update where
  loop : Nat
  waiterId : Nat
  waiter : Waiter
deriving DecidableEq, Repr

/-- The lock; the calls of `set_result` that the loops did not run yet, and all that were scheduled
so far; the `_update()` in progress; and the clients.
-/
structure State where
  nextWaiterId : Nat
  owners : Dict Nat Owner
  waiters : Dict Nat Waiter
  scheduled : List Nat
  granted : List Nat
  updating : Option Update
  clients : Nat → Client

def State.initial : State :=
  { nextWaiterId := 0, owners := .empty, waiters := .empty, scheduled := [], granted := [],
    updating := none, clients := fun _ => { loop := 0, place := .absent } }

/-- What can happen: a task calls `use()` in its loop; an `_update()` sets `_owners`; a loop runs
`set_result`; and a client is asked to cancel, resumes, ends its body or takes `_sync_lock` for its
`finally`.
-/
inductive Event where
  | use (mode : Mode) (weak : Bool) (loop : Nat)
  | stores
  | setResult (id : Nat)
  | cancel (id : Nat)
  | resume (id : Nat)
  | exits (id : Nat)
  | leave (id : Nat)
deriving DecidableEq, Repr

-----------------------------------------------------------------------------------------
-- `_update()`
-----------------------------------------------------------------------------------------

/-- `_is_blocking()` -/
def isBlocking (waiter : Waiter) (owner : Owner) : Bool :=
  waiter.mode == .exclusive || owner.waiter.mode == .exclusive

/-- The entry of `_waiters` at which the first loop of `_update()` breaks. -/
def State.next? (lock : State) : Option (Nat × Waiter) :=
  lock.waiters.entries.find? (fun (_, waiter) =>
    !lock.owners.entries.any (fun (_, owner) => isBlocking waiter owner))

/-- `scope.cancel()`, but for what it does to the task; `none` is its `RuntimeError`. -/
def cancelScope (scope : Scope) : Option Scope :=
  if scope.exited then none
  else some { scope with cancellationCount := scope.cancellationCount + 1 }

/-- The lock asks as any code does that has a scope. -/
theorem cancelScope_eq (scope : Scope) (task : Task) (message : Option String)
    : cancelScope scope = (scope.cancel task message).toOption.map Prod.fst := by
  unfold cancelScope Scope.cancel
  split <;> rfl

/-- An owner that is asked to cancel, unless it was asked before or has no scope yet; `none` is the
`RuntimeError` of a scope that was exited.
-/
def Owner.ask (owner : Owner) : Option Owner :=
  match owner.contextScope with
  | none => some owner
  | some scope =>
      if scope.cancellationCount = 0 then
        (cancelScope scope).map (fun scope => { owner with contextScope := some scope })
      else some owner

/-- The `else` of `_update()`, which asks the owners that block the first waiter that is not weak;
`true` for the `RuntimeError` that ends it.
-/
def State.askOwners (lock : State) : State × Bool :=
  match lock.waiters.entries.find? (fun (_, waiter) => !waiter.weak) with
  | none => (lock, false)
  | some (_, waiter) =>
      let weakOwners := lock.owners.entries.filter (fun (_, owner) => isBlocking waiter owner)
      let asked := weakOwners.takeWhile (fun (_, owner) => owner.ask.isSome)
      let owners := lock.owners.map (fun id owner =>
        if id ∈ asked.map Prod.fst then owner.ask.getD owner else owner)
      ({ lock with owners }, asked.length < weakOwners.length)

/-- `_update()` in the thread of a loop, up to its assignment to `_owners`. -/
def State.update (lock : State) (loop : Nat) : State × Bool :=
  match lock.next? with
  | some (waiterId, waiter) =>
      ({ lock with
          scheduled := lock.scheduled ++ [waiterId]
          granted := lock.granted ++ [waiterId]
          updating := some { loop, waiterId, waiter } },
        false)
  | none => lock.askOwners

/-- `self._owners[waiter_id] = SmartLockOwner(…)` -/
def State.store (lock : State) (update : Update) : State :=
  { lock with
    owners := lock.owners.set update.waiterId { contextScope := none, waiter := update.waiter }
    updating := none }

-----------------------------------------------------------------------------------------
-- `use()`
-----------------------------------------------------------------------------------------

def State.setPlace (lock : State) (id : Nat) (place : Place) : State :=
  { lock with clients := Function.update lock.clients id { lock.clients id with place } }

/-- `use()` up to its `await`. Where `_update()` raises, the waiter stays in the table. -/
def State.use (lock : State) (mode : Mode) (weak : Bool) (loop : Nat) : State :=
  let id := lock.nextWaiterId
  let (updated, raised) :=
    { lock with
      nextWaiterId := id + 1
      waiters := lock.waiters.set id { mode, weak } }.update loop
  { updated with
    clients :=
      Function.update lock.clients id
        { loop, place := if raised then .gone else .waiting false false } }

/-- `waiter.future.set_result(None)` in the loop of the future. -/
def State.setResult (lock : State) (id : Nat) : State :=
  match (lock.clients id).place with
  | .waiting _ mustCancel =>
      { lock with scheduled := lock.scheduled.erase id }.setPlace id (.waiting true mustCancel)
  | .absent | .inside | .leaving | .gone =>
      { lock with scheduled := lock.scheduled.erase id }

/-- `owner.context_scope = context_scope` for a scope that was just entered. -/
def Owner.enter (owner : Owner) : Owner :=
  { owner with contextScope := some { cancellationCount := 0, exited := false } }

/-- The scope that an owner refers to is exited. -/
def Owner.exit (owner : Owner) : Owner :=
  { owner with
    contextScope := owner.contextScope.map (fun scope : Scope => { scope with exited := true }) }

/-- `with use_scope() as context_scope`, and the assignment to the client's entry of `_owners`,
which may not be there.
-/
def State.enter (lock : State) (id : Nat) : State :=
  if id ∈ lock.owners.entries.map Prod.fst then
    { lock with
      owners := lock.owners.map (fun key owner => if key = id then owner.enter else owner)
    }.setPlace id .inside
  else lock.setPlace id .leaving

/-- The end of `with use_scope()`: its scope is exited. -/
def State.exit (lock : State) (id : Nat) : State :=
  { lock with
    owners := lock.owners.map (fun key owner => if key = id then owner.exit else owner)
  }.setPlace id .leaving

/-- The `finally` of `use()`. -/
def State.leave (lock : State) (id : Nat) : State :=
  let left := { lock with owners := lock.owners.pop id, waiters := lock.waiters.pop id }
  (left.update (lock.clients id).loop).1.setPlace id .gone

/-- The thread of the loop is neither in an `_update()` nor at a `finally`. -/
def State.Runs (lock : State) (loop : Nat) : Prop :=
  (∀ update ∈ lock.updating, update.loop ≠ loop)
  ∧ ∀ id < lock.nextWaiterId,
      (lock.clients id).loop = loop → (lock.clients id).place ≠ .leaving

instance (lock : State) (loop : Nat) : Decidable (lock.Runs loop) :=
  inferInstanceAs (Decidable (_ ∧ _))

def step (lock : State) : Event → Option State
  | .use mode weak loop =>
      if lock.updating = none ∧ lock.Runs loop then some (lock.use mode weak loop) else none
  | .stores => lock.updating.map lock.store
  | .setResult id =>
      if id ∈ lock.scheduled ∧ lock.Runs (lock.clients id).loop then some (lock.setResult id)
      else none
  | .cancel id =>
      match (lock.clients id).place with
      | .waiting resolved _ =>
          if lock.Runs (lock.clients id).loop then
            some (lock.setPlace id (.waiting resolved true))
          else none
      | .absent | .inside | .leaving | .gone => none
  | .resume id =>
      match (lock.clients id).place with
      | .waiting _ true =>
          -- The `CancelledError` comes before the result
          if lock.Runs (lock.clients id).loop then some (lock.setPlace id .leaving) else none
      | .waiting true false =>
          if lock.Runs (lock.clients id).loop then some (lock.enter id) else none
      | .waiting false false | .absent | .inside | .leaving | .gone => none
  | .exits id =>
      match (lock.clients id).place with
      | .inside => if lock.Runs (lock.clients id).loop then some (lock.exit id) else none
      | .absent | .waiting _ _ | .leaving | .gone => none
  | .leave id =>
      match (lock.clients id).place with
      | .leaving => if lock.updating = none then some (lock.leave id) else none
      | .absent | .waiting _ _ | .inside | .gone => none

end Aiodrive.SmartLock
