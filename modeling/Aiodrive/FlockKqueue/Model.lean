import Aiodrive.Queue.Button
import Aiodrive.Transition.Runs

/-! `flock_kqueue()` of `modules/lock.py`: one call of it that waits for the lock of a file, the
locks of the other processes, and the kernel event that an unlock of the file posts to the queue
of its `KqueueEventManager`.
-/

namespace Aiodrive.FlockKqueue

variable {κ : Type*} [DecidableEq κ]

/-- `fcntl.LOCK_SH` and `fcntl.LOCK_EX` -/
inductive LockMode where
  | shared
  | exclusive
deriving DecidableEq, Repr

/-- A lock can be taken beside one that somebody else has. -/
def LockMode.compatible : LockMode → LockMode → Bool
  | .shared, .shared => true
  | .shared, .exclusive | .exclusive, _ => false

/-- `fcntl.LOCK_EX if exclusive else fcntl.LOCK_SH` -/
def lockMode (exclusive : Bool) : LockMode := if exclusive then .exclusive else .shared

/-- Where the call is: at the first `flock()`; past its `BlockingIOError`, before the
registration; at the `flock()` of the loop; past its `BlockingIOError`; in `await button`; in
its body; or at its end.
-/
inductive Place where
  | entering
  | registering
  | retrying
  | refused
  | suspended (waiter : Button.Waiter)
  | inside
  | left
deriving DecidableEq, Repr

/-- `holders` are the other processes that have a lock, and `eventPending` is whether the queue
holds an event of the file, which stands for all unlocks since the last one that was read.
-/
structure State (κ : Type*) where
  holders : List (κ × LockMode)
  place : Place
  button : Button
  registered : Bool
  eventPending : Bool
deriving DecidableEq

/-- What can happen: another process takes a lock, exchanges the one it has, or unlocks the
file; the call tries to take the lock, registers, suspends on the button, is resumed or exits;
the event loop calls the reader callback, or the `inner_callback` of the button's future.
-/
inductive Event (κ : Type*) where
  | locks (process : κ) (mode : LockMode)
  | unlocks (process : κ)
  | attempts
  | registers
  | suspends
  | calls
  | wakes
  | resumes
  | exits
deriving DecidableEq, Repr

/-- The call on a file that other processes have locked. -/
def State.initial (holders : List (κ × LockMode)) : State κ :=
  { holders, place := .entering, button := .new, registered := false, eventPending := false }

/-- The locks of all other processes but one. -/
def State.others (state : State κ) (process : κ) : List (κ × LockMode) :=
  state.holders.filter (fun held => held.1 ≠ process)

/-- The other processes leave room for a lock of the call. -/
def State.free (state : State κ) (mode : LockMode) : Bool :=
  state.holders.all (fun held => mode.compatible held.2)

/-- A process other than the call can have a lock. -/
def State.admits (exclusive : Bool) (state : State κ) (process : κ) (mode : LockMode) : Bool :=
  (state.others process).all (fun held => mode.compatible held.2)
    && (state.place != .inside || mode.compatible (lockMode exclusive))

def step (exclusive : Bool) (state : State κ) : Event κ → Option (State κ)
  | .locks process mode =>
      if state.admits exclusive process mode then
        some { state with holders := (process, mode) :: state.others process }
      else
        none
  | .unlocks process =>
      if process ∈ state.holders.map Prod.fst then
        some
          { state with
            holders := state.others process
            eventPending := state.eventPending || state.registered }
      else
        none
  | .attempts =>
      match state.place with
      | .entering =>
          if state.free (lockMode exclusive) then some { state with place := .inside }
          else some { state with place := .registering }
      | .retrying =>
          -- The call leaves its `KqueueEventManager`, which closes the queue
          if state.free (lockMode exclusive) then
            some { state with place := .inside, registered := false, eventPending := false }
          else
            some { state with place := .refused }
      | .registering | .refused | .suspended _ | .inside | .left => none
  | .registers =>
      match state.place with
      | .registering =>
          some { state with place := .retrying, button := Button.new.press, registered := true }
      | .entering | .retrying | .refused | .suspended _ | .inside | .left => none
  | .suspends =>
      match state.place with
      | .refused => some { state with place := .suspended state.button.wait }
      | .entering | .registering | .retrying | .suspended _ | .inside | .left => none
  | .calls =>
      match state.place with
      | .suspended _ =>
          if state.eventPending then
            some { state with button := state.button.press, eventPending := false }
          else
            none
      | .entering | .registering | .retrying | .refused | .inside | .left => none
  | .wakes =>
      match state.place with
      | .suspended waiter =>
          (state.button.innerCallback waiter).map (fun waiter =>
            { state with place := .suspended waiter })
      | .entering | .registering | .retrying | .refused | .inside | .left => none
  | .resumes =>
      match state.place with
      | .suspended waiter =>
          if waiter.outer.done then some { state with place := .retrying } else none
      | .entering | .registering | .retrying | .refused | .inside | .left => none
  | .exits =>
      match state.place with
      | .inside => some { state with place := .left }
      | .entering | .registering | .retrying | .refused | .suspended _ | .left => none

-----------------------------------------------------------------------------------------
-- The moves of a call
-----------------------------------------------------------------------------------------

/-- The steps, one constructor for each branch. -/
inductive Move (exclusive : Bool) (state : State κ) : Event κ → State κ → Prop where
  | locks {process : κ} {mode : LockMode} (admitted : state.admits exclusive process mode = true)
    : Move exclusive state (.locks process mode)
        { state with holders := (process, mode) :: state.others process }
  | unlocks {process : κ} (held : process ∈ state.holders.map Prod.fst)
    : Move exclusive state (.unlocks process)
        { state with
          holders := state.others process
          eventPending := state.eventPending || state.registered }
  | enters (here : state.place = .entering) (free : state.free (lockMode exclusive) = true)
    : Move exclusive state .attempts { state with place := .inside }
  | blocks (here : state.place = .entering) (taken : state.free (lockMode exclusive) = false)
    : Move exclusive state .attempts { state with place := .registering }
  | obtains (here : state.place = .retrying) (free : state.free (lockMode exclusive) = true)
    : Move exclusive state .attempts
        { state with place := .inside, registered := false, eventPending := false }
  | fails (here : state.place = .retrying) (taken : state.free (lockMode exclusive) = false)
    : Move exclusive state .attempts { state with place := .refused }
  | registers (here : state.place = .registering)
    : Move exclusive state .registers
        { state with place := .retrying, button := Button.new.press, registered := true }
  | suspends (here : state.place = .refused)
    : Move exclusive state .suspends { state with place := .suspended state.button.wait }
  | calls {waiter : Button.Waiter} (here : state.place = .suspended waiter)
    (pending : state.eventPending = true)
    : Move exclusive state .calls
        { state with button := state.button.press, eventPending := false }
  | wakes {waiter woken : Button.Waiter} (here : state.place = .suspended waiter)
    (called : state.button.innerCallback waiter = some woken)
    : Move exclusive state .wakes { state with place := .suspended woken }
  | resumes {waiter : Button.Waiter} (here : state.place = .suspended waiter)
    (done : waiter.outer.done = true)
    : Move exclusive state .resumes { state with place := .retrying }
  | exits (here : state.place = .inside)
    : Move exclusive state .exits { state with place := .left }

/-- Every step is one of the moves. -/
theorem move_of_step {exclusive : Bool} {state next : State κ} {event : Event κ}
    (stepped : step exclusive state event = some next)
    : Move exclusive state event next := by
  cases event with
  | locks process mode =>
      obtain ⟨admitted, same⟩ := Option.ite_none_right_eq_some.mp stepped
      exact Option.some.inj same ▸ .locks admitted
  | unlocks process =>
      obtain ⟨held, same⟩ := Option.ite_none_right_eq_some.mp stepped
      exact Option.some.inj same ▸ .unlocks held
  | attempts =>
      simp only [step] at stepped
      split at stepped
      · rename_i here
        split at stepped
        · rename_i free
          exact Option.some.inj stepped ▸ .enters here free
        · rename_i taken
          exact Option.some.inj stepped ▸ .blocks here (by simpa using taken)
      · rename_i here
        split at stepped
        · rename_i free
          exact Option.some.inj stepped ▸ .obtains here free
        · rename_i taken
          exact Option.some.inj stepped ▸ .fails here (by simpa using taken)
      all_goals cases stepped
  | registers =>
      simp only [step] at stepped
      split at stepped
      · rename_i here
        exact Option.some.inj stepped ▸ .registers here
      all_goals cases stepped
  | suspends =>
      simp only [step] at stepped
      split at stepped
      · rename_i here
        exact Option.some.inj stepped ▸ .suspends here
      all_goals cases stepped
  | calls =>
      simp only [step] at stepped
      split at stepped
      · rename_i waiter here
        obtain ⟨pending, same⟩ := Option.ite_none_right_eq_some.mp stepped
        exact Option.some.inj same ▸ .calls here pending
      all_goals cases stepped
  | wakes =>
      simp only [step] at stepped
      split at stepped
      · rename_i waiter here
        obtain ⟨woken, called, rfl⟩ := Option.map_eq_some_iff.mp stepped
        exact .wakes here called
      all_goals cases stepped
  | resumes =>
      simp only [step] at stepped
      split at stepped
      · rename_i waiter here
        obtain ⟨done, same⟩ := Option.ite_none_right_eq_some.mp stepped
        exact Option.some.inj same ▸ .resumes here done
      all_goals cases stepped
  | exits =>
      simp only [step] at stepped
      split at stepped
      · rename_i here
        exact Option.some.inj stepped ▸ .exits here
      all_goals cases stepped

end Aiodrive.FlockKqueue
