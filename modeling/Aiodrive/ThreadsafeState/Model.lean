import Aiodrive.Asyncio.Future
import Aiodrive.Transition.Runs
import Mathlib.Logic.Function.Basic

/-! `ThreadsafeState` of `modules/thread_safe_state.py`, with threads in `wait_until_sync()` and
tasks in `wait_until()`. A block under `_condition` is one step; the calls of `set_result`
that it passes to other loops run later.
-/

namespace Aiodrive.ThreadsafeState

variable {κ T : Type*}

/-- Where a client is in its call, with its predicate: before a check of the value, in
`wait_until()` of a loop or in `wait_until_sync()`; at `await asyncio.shield(future)`, cancelled
or not; in `self._condition.wait()`, notified or not; or at its end.
-/
inductive Client (T : Type*) where
  | idle
  | checking (fn : T → Bool) (loop : Option Nat)
  | suspended (fn : T → Bool) (loop future : Nat) (mustCancel : Bool)
  | syncWaiting (fn : T → Bool) (notified : Bool)
  | returned (fn : T → Bool) (value : T)
  | cancelled

/-- The call has not ended. -/
def Client.inCall : Client T → Bool
  | checking _ _ | suspended _ _ _ _ | syncWaiting _ _ => true
  | idle | returned _ _ | cancelled => false

/-- The state with its clients: `_futures` in its order of insertion, the futures created for it,
each with its loop, and the calls of `set_result` that the loops accepted. `scheduled` did not
run yet, `history` has all of them. `errors` counts those that met a done future, and `held`
the values during the call of a client.
-/
structure State (κ T : Type*) where
  value : T
  futures : List (Nat × Nat)
  futureCount : Nat
  loopOf : Nat → Nat
  states : Nat → FutureState Empty Unit
  scheduled : List Nat
  history : List Nat
  errors : Nat
  closedLoop : Nat → Bool
  clients : κ → Client T
  held : κ → List T

def State.initial (value : T) : State κ T :=
  { value, futures := [], futureCount := 0, loopOf := fun _ => 0, states := fun _ => .pending,
    scheduled := [], history := [], errors := 0, closedLoop := fun _ => false,
    clients := fun _ => .idle, held := fun _ => [] }

/-- What can happen: a client calls one of the two methods, takes the lock for a check, or goes
on after a wait; somebody changes the value; a loop runs `set_result` or closes; a task in
`wait_until()` is cancelled.
-/
inductive Event (κ T : Type*) where
  | waitUntil (client : κ) (loop : Nat) (fn : T → Bool)
  | waitUntilSync (client : κ) (fn : T → Bool)
  | check (client : κ)
  | resume (client : κ)
  | setValue (value : T)
  | updateValue (fn : T → T)
  | setResult (future : Nat)
  | closeLoop (loop : Nat)
  | cancel (client : κ)

/-- `self._condition.notify_all()`, for one client. -/
def Client.notify : Client T → Client T
  | syncWaiting fn _ => syncWaiting fn true
  | idle => idle
  | checking fn loop => checking fn loop
  | suspended fn loop future mustCancel => suspended fn loop future mustCancel
  | returned fn value => returned fn value
  | cancelled => cancelled

/-- The futures in `_futures` whose loops accept `call_soon_threadsafe()`. -/
def State.accepting (state : State κ T) : List Nat :=
  (state.futures.map Prod.snd).filter (fun future => !state.closedLoop (state.loopOf future))

/-- `update_value(fn)`, where `differs` is the `!=` of the values. -/
def State.updateValue (differs : T → T → Bool) (state : State κ T) (fn : T → T) : State κ T :=
  let newValue := fn state.value
  if differs state.value newValue then
    { state with
      value := newValue
      clients := fun client => (state.clients client).notify
      scheduled := state.scheduled ++ state.accepting
      history := state.history ++ state.accepting
      futures := []
      held := fun client =>
        if (state.clients client).inCall then state.held client ++ [newValue]
        else state.held client }
  else
    state

/-- `set_value(value)` -/
def State.setValue (differs : T → T → Bool) (state : State κ T) (value : T) : State κ T :=
  state.updateValue differs (fun _oldValue => value)

/-- `future.set_result(None)`, whose `InvalidStateError` on a done future ends in the loop. -/
def State.setResult (state : State κ T) (future : Nat) : State κ T :=
  let state := { state with scheduled := state.scheduled.erase future }
  if (state.states future).done then { state with errors := state.errors + 1 }
  else { state with states := Function.update state.states future (.success ()) }

/-- The `set_result` of the future is scheduled, or has been executed. -/
def State.Signalled (state : State κ T) (future : Nat) : Prop :=
  future ∈ state.scheduled ∨ (state.states future).done = true

variable [DecidableEq κ]

def State.setClient (state : State κ T) (client : κ) (place : Client T) : State κ T :=
  { state with clients := Function.update state.clients client place }

/-- A call begins, with the present value as the first one during it. -/
def State.begin (state : State κ T) (client : κ) (place : Client T) : State κ T :=
  { state.setClient client place with
    held := Function.update state.held client [state.value] }

/-- The block of `_observe()` where `fn` is false: the future of the loop is looked up, or created
and put into `_futures`.
-/
def State.observe (state : State κ T) (client : κ) (fn : T → Bool) (loop : Nat)
    : State κ T :=
  match state.futures.lookup loop with
  | some future => state.setClient client (.suspended fn loop future false)
  | none =>
      { state with
        loopOf := Function.update state.loopOf state.futureCount loop
        futureCount := state.futureCount + 1
        futures := state.futures ++ [(loop, state.futureCount)]
      }.setClient client (.suspended fn loop state.futureCount false)

/-- The check of the value under `_condition`, in either method. -/
def State.check (state : State κ T) (client : κ) (fn : T → Bool) (loop : Option Nat)
    : State κ T :=
  if fn state.value then state.setClient client (.returned fn state.value)
  else
    match loop with
    | some loop => state.observe client fn loop
    | none => state.setClient client (.syncWaiting fn false)

def step (differs : T → T → Bool) (state : State κ T) : Event κ T → Option (State κ T)
  | .waitUntil client loop fn =>
      if !(state.clients client).inCall && !state.closedLoop loop then
        some (state.begin client (.checking fn (some loop)))
      else
        none
  | .waitUntilSync client fn =>
      if (state.clients client).inCall then none
      else some (state.begin client (.checking fn none))
  | .check client =>
      match state.clients client with
      | .checking fn loop =>
          if loop.any state.closedLoop then none else some (state.check client fn loop)
      | .idle | .suspended _ _ _ _ | .syncWaiting _ _ | .returned _ _ | .cancelled => none
  | .resume client =>
      match state.clients client with
      | .suspended fn loop future mustCancel =>
          if state.closedLoop loop then none
          else if mustCancel then some (state.setClient client .cancelled)
          else if (state.states future).done then
            some (state.setClient client (.checking fn (some loop)))
          else
            none
      | .syncWaiting fn notified =>
          if notified then some (state.setClient client (.checking fn none)) else none
      | .idle | .checking _ _ | .returned _ _ | .cancelled => none
  | .setValue value => some (state.setValue differs value)
  | .updateValue fn => some (state.updateValue differs fn)
  | .setResult future =>
      if future ∈ state.scheduled ∧ state.closedLoop (state.loopOf future) = false then
        some (state.setResult future)
      else
        none
  | .closeLoop loop =>
      some { state with closedLoop := Function.update state.closedLoop loop true }
  | .cancel client =>
      match state.clients client with
      | .suspended fn loop future _ =>
          -- The shield leaves the future itself alone
          some (state.setClient client (.suspended fn loop future true))
      | .idle | .checking _ _ | .syncWaiting _ _ | .returned _ _ | .cancelled => none

-----------------------------------------------------------------------------------------
-- The moves of the clients and the loops
-----------------------------------------------------------------------------------------

/-- The steps, one constructor for each branch. -/
inductive Move (differs : T → T → Bool) (state : State κ T) : Event κ T → State κ T → Prop where
  | begins {client : κ} {loop : Nat} {fn : T → Bool}
    : Move differs state (.waitUntil client loop fn)
        (state.begin client (.checking fn (some loop)))
  | beginsSync {client : κ} {fn : T → Bool}
    : Move differs state (.waitUntilSync client fn) (state.begin client (.checking fn none))
  | checks {client : κ} {fn : T → Bool} {loop : Option Nat}
    (here : state.clients client = .checking fn loop)
    : Move differs state (.check client) (state.check client fn loop)
  | throws {client : κ} {fn : T → Bool} {loop future : Nat}
    (here : state.clients client = .suspended fn loop future true)
    : Move differs state (.resume client) (state.setClient client .cancelled)
  | resumes {client : κ} {fn : T → Bool} {loop future : Nat}
    (here : state.clients client = .suspended fn loop future false)
    (done : (state.states future).done = true)
    : Move differs state (.resume client) (state.setClient client (.checking fn (some loop)))
  | resumesSync {client : κ} {fn : T → Bool} (here : state.clients client = .syncWaiting fn true)
    : Move differs state (.resume client) (state.setClient client (.checking fn none))
  | setsValue {value : T} : Move differs state (.setValue value) (state.setValue differs value)
  | updates {fn : T → T} : Move differs state (.updateValue fn) (state.updateValue differs fn)
  | setsResult {future : Nat} (inFlight : future ∈ state.scheduled)
    (opened : state.closedLoop (state.loopOf future) = false)
    : Move differs state (.setResult future) (state.setResult future)
  | closes {loop : Nat}
    : Move differs state (.closeLoop loop)
        { state with closedLoop := Function.update state.closedLoop loop true }
  | cancels {client : κ} {fn : T → Bool} {loop future : Nat} {mustCancel : Bool}
    (here : state.clients client = .suspended fn loop future mustCancel)
    : Move differs state (.cancel client)
        (state.setClient client (.suspended fn loop future true))

/-- Every step is one of the moves. -/
theorem move_of_step {differs : T → T → Bool} {state next : State κ T} {event : Event κ T}
    (stepped : step differs state event = some next)
    : Move differs state event next := by
  cases event with
  | waitUntil client loop fn =>
      simp only [step, Option.ite_none_right_eq_some] at stepped
      obtain ⟨_, same⟩ := stepped
      exact Option.some.inj same ▸ .begins
  | waitUntilSync client fn =>
      simp only [step, Option.ite_none_left_eq_some] at stepped
      obtain ⟨_, same⟩ := stepped
      exact Option.some.inj same ▸ .beginsSync
  | check client =>
      simp only [step] at stepped
      split at stepped
      · rename_i here
        simp only [Option.ite_none_left_eq_some] at stepped
        obtain ⟨_, same⟩ := stepped
        exact Option.some.inj same ▸ .checks here
      all_goals contradiction
  | resume client =>
      simp only [step] at stepped
      split at stepped
      · rename_i fn loop future mustCancel here
        cases mustCancel with
        | true =>
            simp only [if_true, Option.ite_none_left_eq_some] at stepped
            obtain ⟨_, same⟩ := stepped
            exact Option.some.inj same ▸ .throws here
        | false =>
            simp only [Bool.false_eq_true, if_false, Option.ite_none_left_eq_some,
              Option.ite_none_right_eq_some] at stepped
            obtain ⟨_, done, same⟩ := stepped
            exact Option.some.inj same ▸ .resumes here done
      · rename_i fn notified here
        simp only [Option.ite_none_right_eq_some] at stepped
        obtain ⟨rfl, same⟩ := stepped
        exact Option.some.inj same ▸ .resumesSync here
      all_goals contradiction
  | setValue value => exact Option.some.inj stepped ▸ .setsValue
  | updateValue fn => exact Option.some.inj stepped ▸ .updates
  | setResult future =>
      simp only [step, Option.ite_none_right_eq_some] at stepped
      obtain ⟨⟨inFlight, opened⟩, same⟩ := stepped
      exact Option.some.inj same ▸ .setsResult inFlight opened
  | closeLoop loop => exact Option.some.inj stepped ▸ .closes
  | cancel client =>
      simp only [step] at stepped
      split at stepped
      · rename_i here
        exact Option.some.inj stepped ▸ .cancels here
      all_goals contradiction

-----------------------------------------------------------------------------------------
-- What a check leaves
-----------------------------------------------------------------------------------------

section

variable (state : State κ T) (client : κ) {fn : T → Bool}

theorem clients_check_of_accepts (loop : Option Nat) (accepts : fn state.value = true)
    : (state.check client fn loop).clients client = .returned fn state.value := by
  simp [State.check, accepts, State.setClient]

theorem clients_check_sync (refuses : fn state.value = false)
    : (state.check client fn none).clients client = .syncWaiting fn false := by
  simp [State.check, refuses, State.setClient]

theorem clients_check_async (loop : Nat) (refuses : fn state.value = false)
    : ∃ future,
        (state.check client fn (some loop)).clients client
          = .suspended fn loop future false := by
  simp only [State.check, refuses, Bool.false_eq_true, if_false, State.observe]
  split <;> simp [State.setClient]

@[simp] theorem value_check (loop : Option Nat)
    : (state.check client fn loop).value = state.value := by
  unfold State.check State.observe
  split_ifs
  · rfl
  · split
    · split <;> rfl
    · rfl

end

/-- The event is a call of `update_value()`. -/
def Event.Updates : Event κ T → Prop
  | .setValue _ | .updateValue _ => True
  | .waitUntil .. | .waitUntilSync .. | .check _ | .resume _ | .setResult _ | .closeLoop _
  | .cancel _ => False

/-- Nothing else changes the value. -/
theorem value_of_step {differs : T → T → Bool} {state next : State κ T} {event : Event κ T}
    (waits : ¬event.Updates) (stepped : step differs state event = some next)
    : next.value = state.value := by
  cases move_of_step stepped with
  | begins | beginsSync | throws | resumes | resumesSync | closes | cancels => rfl
  | checks => exact value_check ..
  | setsResult =>
      unfold State.setResult
      simp only
      split <;> rfl
  | setsValue | updates => exact (waits trivial).elim

end Aiodrive.ThreadsafeState
