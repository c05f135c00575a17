import Aiodrive.Transition.Runs
import Mathlib.Data.Finset.Basic
import Mathlib.Logic.Function.Basic

/-! `ThreadsafeRWLock` of `experiments/rw_lock.py`, with its clients: the calls of `_acquire()`,
of any tasks in any threads, each under its id. What `_acquire()` does first under `_state_lock`
is one step. Of `release()` each statement that hands the lock over is one, as the loops of the
new owners run meanwhile.
-/

namespace Aiodrive.RWLock

/-- The `target` of `_acquire()` -/
inductive Target where
  | read
  | write
deriving DecidableEq, Repr

/-- `_state` -/
inductive LockState where
  | unlocked
  | read
  | write
deriving DecidableEq, Repr

/-- `self._state = target` -/
def Target.lockState : Target → LockState
  | .read => .read
  | .write => .write

/-- Where a client is: not there yet; at `await asyncio.shield(future)`, with its future resolved or
not, and asked to cancel or not; in its section; or past `release()`.
-/
inductive Place where
  | absent
  | waiting (resolved mustCancel : Bool)
  | inside
  | gone
deriving DecidableEq, Repr

structure Client where
  target : Target
  place : Place
deriving DecidableEq, Repr

/-- The statements of `release()` that hand the lock over: `set_result` is passed to
`call_soon_threadsafe()`, an id is added to `_state_owner_ids`, `_state` is set, and
`_queue_read` is cleared.
-/
inductive Statement where
  | callSoonThreadsafe (id : Nat)
  | add (id : Nat)
  | setState (state : LockState)
  | clear
deriving DecidableEq, Repr

/-- The lock, the calls of `set_result` that the loops did not run yet, the clients, and what is
left of the `release()` that has `_state_lock`.
-/
structure State where
  nextId : Nat
  queueRead : List Nat
  queueWrite : List Nat
  state : LockState
  ownerIds : Finset Nat
  scheduled : List Nat
  clients : Nat → Client
  critical : List Statement

def State.initial : State :=
  { nextId := 0, queueRead := [], queueWrite := [], state := .unlocked, ownerIds := ∅,
    scheduled := [], clients := fun _ => { target := .read, place := .absent }, critical := [] }

/-- What can happen: a task calls `acquire_read()` or `acquire_write()`; a `release()` goes on;
a loop runs `set_result`; and a client is asked to cancel, resumes or leaves its section.
-/
inductive Event where
  | acquire (target : Target)
  | works
  | setResult (id : Nat)
  | cancel (id : Nat)
  | resume (id : Nat)
  | exit (id : Nat)
deriving DecidableEq, Repr

def State.setPlace (lock : State) (id : Nat) (place : Place) : State :=
  { lock with clients := Function.update lock.clients id { lock.clients id with place } }

/-- What `_acquire()` does first under `_state_lock`, up to its `await` or `yield`. -/
def State.acquire (lock : State) (target : Target) : State :=
  match lock.state, target with
  | .unlocked, _ | .read, .read =>
      { lock with
        nextId := lock.nextId + 1
        state := target.lockState
        ownerIds := insert lock.nextId lock.ownerIds
        clients := Function.update lock.clients lock.nextId { target, place := .inside } }
  | .write, .read =>
      { lock with
        nextId := lock.nextId + 1
        queueRead := lock.queueRead ++ [lock.nextId]
        clients :=
          Function.update lock.clients lock.nextId { target, place := .waiting false false } }
  | .read, .write | .write, .write =>
      { lock with
        nextId := lock.nextId + 1
        queueWrite := lock.queueWrite ++ [lock.nextId]
        clients :=
          Function.update lock.clients lock.nextId { target, place := .waiting false false } }

/-- The second `if` of `release()`, where `_state_owner_ids` is empty. -/
def State.handOver (lock : State) : State :=
  match lock.queueWrite, lock.queueRead with
  | next :: rest, _ =>
      { lock with
        queueWrite := rest
        critical := [.callSoonThreadsafe next, .setState .write, .add next] }
  | [], [] => { lock with critical := [.setState .unlocked] }
  | [], first :: rest =>
      { lock with
        critical :=
          [.setState .read]
          ++ (first :: rest).flatMap (fun id => [.callSoonThreadsafe id, .add id])
          ++ [.clear] }

/-- `release()`, up to the hand-over. -/
def State.release (lock : State) (id : Nat) : State :=
  if lock.ownerIds.erase id = ∅ then
    { lock with ownerIds := lock.ownerIds.erase id }.handOver
  else
    { lock with ownerIds := lock.ownerIds.erase id }

def State.exec (lock : State) : Statement → State
  | .callSoonThreadsafe id => { lock with scheduled := lock.scheduled ++ [id] }
  | .add id => { lock with ownerIds := insert id lock.ownerIds }
  | .setState state => { lock with state }
  | .clear => { lock with queueRead := [] }

/-- `next_future.set_result(None)` in the loop of the future. -/
def State.setResult (lock : State) (id : Nat) : State :=
  match (lock.clients id).place with
  | .waiting _ mustCancel =>
      { lock with scheduled := lock.scheduled.erase id }.setPlace id (.waiting true mustCancel)
  | .absent | .inside | .gone => { lock with scheduled := lock.scheduled.erase id }

def step (lock : State) : Event → Option State
  | .acquire target => if lock.critical = [] then some (lock.acquire target) else none
  | .works =>
      match lock.critical with
      | [] => none
      | statement :: rest => some { lock.exec statement with critical := rest }
  | .setResult id => if id ∈ lock.scheduled then some (lock.setResult id) else none
  | .cancel id =>
      match (lock.clients id).place with
      | .waiting resolved _ => some (lock.setPlace id (.waiting resolved true))
      | .absent | .inside | .gone => none
  | .resume id =>
      match (lock.clients id).place with
      | .waiting _ true =>
          -- The `CancelledError` comes before the result
          if lock.critical = [] then some ((lock.setPlace id .gone).release id) else none
      | .waiting true false => some (lock.setPlace id .inside)
      | .waiting false false | .absent | .inside | .gone => none
  | .exit id =>
      match (lock.clients id).place with
      | .inside =>
          if lock.critical = [] then some ((lock.setPlace id .gone).release id) else none
      | .absent | .waiting _ _ | .gone => none

-----------------------------------------------------------------------------------------
-- Who holds the lock
-----------------------------------------------------------------------------------------

/-- The client is in its section. -/
def State.Inside (lock : State) (id : Nat) : Prop := (lock.clients id).place = .inside

/-- The client waits, and `set_result` is on its way to it or ran: it will take the lock, or
release it if it is cancelled.
-/
def State.Granted (lock : State) (id : Nat) : Prop :=
  match (lock.clients id).place with
  | .waiting resolved _ => resolved = true ∨ id ∈ lock.scheduled
  | .absent | .inside | .gone => False

/-- The client has the lock. -/
def State.Holds (lock : State) (id : Nat) : Prop := lock.Inside id ∨ lock.Granted id

-----------------------------------------------------------------------------------------
-- The moves of the lock and its clients
-----------------------------------------------------------------------------------------

/-- The steps, one constructor for each branch. -/
inductive Move (lock : State) : Event → State → Prop where
  | acquires {target : Target} (idle : lock.critical = [])
    : Move lock (.acquire target) (lock.acquire target)
  | works {statement : Statement} {rest : List Statement}
    (first : lock.critical = statement :: rest)
    : Move lock .works { lock.exec statement with critical := rest }
  | resolves {id : Nat} (scheduled : id ∈ lock.scheduled)
    : Move lock (.setResult id) (lock.setResult id)
  | asks {id : Nat} {resolved mustCancel : Bool}
    (here : (lock.clients id).place = .waiting resolved mustCancel)
    : Move lock (.cancel id) (lock.setPlace id (.waiting resolved true))
  | givesUp {id : Nat} {resolved : Bool} (here : (lock.clients id).place = .waiting resolved true)
    (idle : lock.critical = [])
    : Move lock (.resume id) ((lock.setPlace id .gone).release id)
  | enters {id : Nat} (here : (lock.clients id).place = .waiting true false)
    : Move lock (.resume id) (lock.setPlace id .inside)
  | exits {id : Nat} (here : (lock.clients id).place = .inside) (idle : lock.critical = [])
    : Move lock (.exit id) ((lock.setPlace id .gone).release id)

/-- Every step is one of the moves. -/
theorem move_of_step {lock next : State} {event : Event} (stepped : step lock event = some next)
    : Move lock event next := by
  cases event with
  | acquire target =>
      obtain ⟨idle, same⟩ := Option.ite_none_right_eq_some.mp stepped
      exact Option.some.inj same ▸ .acquires idle
  | works =>
      simp only [step] at stepped
      split at stepped
      · cases stepped
      · rename_i statement rest first
        exact Option.some.inj stepped ▸ .works first
  | setResult id =>
      obtain ⟨scheduled, same⟩ := Option.ite_none_right_eq_some.mp stepped
      exact Option.some.inj same ▸ .resolves scheduled
  | cancel id =>
      simp only [step] at stepped
      split at stepped
      · rename_i resolved mustCancel here
        exact Option.some.inj stepped ▸ .asks here
      all_goals cases stepped
  | resume id =>
      simp only [step] at stepped
      split at stepped
      · rename_i resolved here
        obtain ⟨idle, same⟩ := Option.ite_none_right_eq_some.mp stepped
        exact Option.some.inj same ▸ .givesUp here idle
      · rename_i here
        exact Option.some.inj stepped ▸ .enters here
      all_goals cases stepped
  | exit id =>
      simp only [step] at stepped
      split at stepped
      · rename_i here
        obtain ⟨idle, same⟩ := Option.ite_none_right_eq_some.mp stepped
        exact Option.some.inj same ▸ .exits here idle
      all_goals cases stepped

end Aiodrive.RWLock
