import Aiodrive.Shield.Wait

/-! `cleaned_up()` of `modules/cleanup.py`: the task that uses it, from its entry on, and which of
the cancellation requests made since then its callback is told of.
-/

namespace Aiodrive

/-- `ShieldContext`, with the cancellation request count of the task where it is made. -/
structure ShieldContext where
  initialCancellationCount : Nat
deriving DecidableEq, Repr

/-- The argument that `ShieldContext.shield()` passes on to `shield_wait()`. -/
def ShieldContext.shieldCount (context : ShieldContext) (shieldCount : Int) : Int :=
  shieldCount - context.initialCancellationCount

/-- A budget of one is kept whole where there is any of it left. -/
theorem ShieldContext.shieldCount_of_pos {context : ShieldContext}
    (budget : 0 < context.shieldCount 1)
    : context.initialCancellationCount = 0 ∧ context.shieldCount 1 = (1 : Nat) := by
  unfold ShieldContext.shieldCount at *
  omega

namespace CleanedUp

variable {ε : Type*}

/-- The cancellation requests on a task that enters the context: their count, and whether there
is one among them whose `CancelledError` is still to be raised.
-/
structure Outstanding where
  cancelling : Nat
  undelivered : Bool
  counted : undelivered = true → 0 < cancelling

/-- Where the task is: in the body or in the callback that it awaits directly, where it is
suspended or not; suspended in `shield_wait()`, with the callback in a task of its own that has
been started or not; or past the context.
-/
inductive Place (ε : Type*) where
  | body (suspended : Bool)
  | shielding (started : Bool) (wait : ShieldWait.State ε Unit)
  | awaiting (suspended : Bool)
  | left
deriving DecidableEq, Repr

/-- The requests made since the entry are numbered from 1 on. -/
structure State (ε : Type*) where
  context : ShieldContext
  place : Place ε
  requests : Nat
  /-- The requests that the next `CancelledError` raised in the task stands for; 0 is one that
  was made before the entry.
  -/
  undelivered : List Nat
  /-- The requests whose `CancelledError` was raised in the callback, or in its task. -/
  received : List Nat

def State.initial (entry : Outstanding) : State ε :=
  { context := { initialCancellationCount := entry.cancelling }
    place := .body false
    requests := 0
    undelivered := if entry.undelivered then [0] else []
    received := [] }

/-- What can happen: somebody makes a request; the task suspends in the body or the callback, or
resumes; the body ends, by whichever way; the callback starts in a task of its own, or ends; the
callback of its shield runs.
-/
inductive Event (ε : Type*) where
  | request
  | suspends
  | resumes
  | bodyEnds
  | callbackStarts
  | callbackEnds (ended : FutureState ε Unit)
  | innerCallback
deriving DecidableEq, Repr

/-- `await shield_wait(callback(), shield_count=shield_count)` up to its first suspension. -/
def State.shieldWait (state : State ε) (shieldCount : Int) : Option (State ε) :=
  if shieldCount ≤ 0 then
    some { state with place := .awaiting false }
  else
    let wait := ShieldWait.State.initial shieldCount .pending
    if state.undelivered.isEmpty then
      some { state with place := .shielding false wait }
    else
      (ShieldWait.step wait .cancel).map (fun wait =>
        { state with place := .shielding false wait, undelivered := [] })

/-- A step of `shield_wait()`, which ends the context when it exits. -/
def State.waitStep (state : State ε) (started : Bool) (wait : ShieldWait.State ε Unit)
    (event : ShieldWait.Event ε Unit)
    : Option (State ε) :=
  (ShieldWait.step wait event).map (fun wait =>
    match wait.place with
    | .exited _ => { state with place := .left }
    | .shielding _ _ _ | .passing _ _ => { state with place := .shielding started wait })

/-- `Task.cancel()` -/
def State.request (state : State ε) : Option (State ε) :=
  let number := state.requests + 1
  match state.place with
  | .body _ | .awaiting _ =>
      some { state with requests := number, undelivered := state.undelivered ++ [number] }
  | .shielding started wait =>
      (ShieldWait.step wait .cancel).map (fun next =>
        { state with
          place := .shielding started next
          requests := number
          -- The task of the callback takes the request over
          received :=
            if wait.passed.length < next.passed.length then state.received ++ [number]
            else state.received })
  | .left => none

def step (state : State ε) : Event ε → Option (State ε)
  | .request => state.request
  | .suspends =>
      match state.place with
      | .body false => some { state with place := .body true }
      | .awaiting false => some { state with place := .awaiting true }
      | .body true | .awaiting true | .shielding _ _ | .left => none
  | .resumes =>
      match state.place with
      | .body true => some { state with place := .body false, undelivered := [] }
      | .awaiting true =>
          some { state with
            place := .awaiting false
            undelivered := []
            received := state.received ++ state.undelivered }
      | .shielding true wait => state.waitStep true wait .resume
      | .body false | .awaiting false | .shielding false _ | .left => none
  | .bodyEnds =>
      match state.place with
      | .body false => state.shieldWait (state.context.shieldCount 1)
      | .body true | .awaiting _ | .shielding _ _ | .left => none
  | .callbackStarts =>
      match state.place with
      | .shielding false wait => some { state with place := .shielding true wait }
      | .body _ | .awaiting _ | .shielding true _ | .left => none
  | .callbackEnds ended =>
      match state.place with
      | .awaiting false => if ended.done then some { state with place := .left } else none
      | .shielding true wait => state.waitStep true wait (.innerEnds ended)
      | .body _ | .awaiting true | .shielding false _ | .left => none
  | .innerCallback =>
      match state.place with
      | .shielding started wait => state.waitStep started wait .innerCallback
      | .body _ | .awaiting _ | .left => none

-----------------------------------------------------------------------------------------
-- The moves
-----------------------------------------------------------------------------------------

/-- The event of `shield_wait()` that an event is where its task is in there. -/
def Event.shield? : Event ε → Option (ShieldWait.Event ε Unit)
  | resumes => some .resume
  | callbackEnds ended => some (.innerEnds ended)
  | innerCallback => some .innerCallback
  | request | suspends | bodyEnds | callbackStarts => none

/-- The steps, one constructor for each branch. -/
inductive Move (state : State ε) : Event ε → State ε → Prop where
  | asks {suspended : Bool}
    (here : state.place = .body suspended ∨ state.place = .awaiting suspended)
    : Move state .request
        { state with
          requests := state.requests + 1
          undelivered := state.undelivered ++ [state.requests + 1] }
  | asksShield {started : Bool} {wait next : ShieldWait.State ε Unit}
    (here : state.place = .shielding started wait)
    (cancelled : ShieldWait.step wait .cancel = some next)
    : Move state .request
        { state with
          place := .shielding started next
          requests := state.requests + 1
          received :=
            if wait.passed.length < next.passed.length then
              state.received ++ [state.requests + 1]
            else
              state.received }
  | suspendsBody (here : state.place = .body false)
    : Move state .suspends { state with place := .body true }
  | suspendsCallback (here : state.place = .awaiting false)
    : Move state .suspends { state with place := .awaiting true }
  | resumesBody (here : state.place = .body true)
    : Move state .resumes { state with place := .body false, undelivered := [] }
  | resumesCallback (here : state.place = .awaiting true)
    : Move state .resumes
        { state with
          place := .awaiting false
          undelivered := []
          received := state.received ++ state.undelivered }
  | awaits (here : state.place = .body false) (spent : state.context.shieldCount 1 ≤ 0)
    : Move state .bodyEnds { state with place := .awaiting false }
  | shields {wait : ShieldWait.State ε Unit} (here : state.place = .body false)
    (budget : 0 < state.context.shieldCount 1)
    (told
      : if state.undelivered = [] then wait = .initial (state.context.shieldCount 1) .pending
        else ShieldWait.step (.initial (state.context.shieldCount 1) .pending) .cancel = some wait)
    : Move state .bodyEnds { state with place := .shielding false wait, undelivered := [] }
  | starts {wait : ShieldWait.State ε Unit} (here : state.place = .shielding false wait)
    : Move state .callbackStarts { state with place := .shielding true wait }
  | ends {ended : FutureState ε Unit} (here : state.place = .awaiting false)
    (done : ended.done = true)
    : Move state (.callbackEnds ended) { state with place := .left }
  | waits {started : Bool} {wait next : ShieldWait.State ε Unit} {event : Event ε}
    {own : ShieldWait.Event ε Unit} (here : state.place = .shielding started wait)
    (same : event.shield? = some own) (waited : ShieldWait.step wait own = some next)
    : Move state event { state with place := .shielding started next }
  | leaves {started : Bool} {wait next : ShieldWait.State ε Unit} {event : Event ε}
    {own : ShieldWait.Event ε Unit} {outcome : Outcome ε Unit}
    (here : state.place = .shielding started wait) (same : event.shield? = some own)
    (waited : ShieldWait.step wait own = some next) (exited : next.place = .exited outcome)
    : Move state event { state with place := .left }

theorem move_of_waitStep {state next : State ε} {started : Bool}
    {wait : ShieldWait.State ε Unit} {event : Event ε} {own : ShieldWait.Event ε Unit}
    (here : state.place = .shielding started wait) (same : event.shield? = some own)
    (stepped : state.waitStep started wait own = some next)
    : Move state event next := by
  obtain ⟨after, waited, rfl⟩ := Option.map_eq_some_iff.mp stepped
  cases place : after.place with
  | exited outcome => exact .leaves here same waited place
  | shielding left cancelled waiter => exact .waits here same waited
  | passing cancelled interrupted => exact .waits here same waited

theorem move_of_shieldWait {state next : State ε} (here : state.place = .body false)
    (stepped : state.shieldWait (state.context.shieldCount 1) = some next)
    : Move state .bodyEnds next := by
  unfold State.shieldWait at stepped
  split at stepped
  · rename_i spent
    exact Option.some.inj stepped ▸ .awaits here spent
  · rename_i budget
    have positive : 0 < state.context.shieldCount 1 := Int.not_le.mp budget
    split at stepped
    · rename_i empty
      have nothing : state.undelivered = [] := List.isEmpty_iff.mp empty
      let wait : ShieldWait.State ε Unit := .initial (state.context.shieldCount 1) .pending
      have moved := @Move.shields ε state wait here positive (by rw [if_pos nothing])
      rw [← Option.some.inj stepped]
      simpa [nothing] using moved
    · rename_i pending
      obtain ⟨wait, cancelled, rfl⟩ := Option.map_eq_some_iff.mp stepped
      refine .shields here positive ?_
      rw [if_neg (by simpa using pending)]
      exact cancelled

/-- Every step is one of the moves. -/
theorem move_of_step {state next : State ε} {event : Event ε}
    (stepped : step state event = some next)
    : Move state event next := by
  obtain ⟨context, place, requests, undelivered, received⟩ := state
  cases event with
  | request =>
      cases place with
      | body suspended => exact Option.some.inj stepped ▸ .asks (.inl rfl)
      | awaiting suspended => exact Option.some.inj stepped ▸ .asks (.inr rfl)
      | shielding started wait =>
          obtain ⟨after, cancelled, rfl⟩ := Option.map_eq_some_iff.mp stepped
          exact .asksShield rfl cancelled
      | left => contradiction
  | suspends =>
      cases place with
      | body suspended =>
          cases suspended with
          | false => exact Option.some.inj stepped ▸ .suspendsBody rfl
          | true => contradiction
      | awaiting suspended =>
          cases suspended with
          | false => exact Option.some.inj stepped ▸ .suspendsCallback rfl
          | true => contradiction
      | shielding _ _ | left => contradiction
  | resumes =>
      cases place with
      | body suspended =>
          cases suspended with
          | true => exact Option.some.inj stepped ▸ .resumesBody rfl
          | false => contradiction
      | awaiting suspended =>
          cases suspended with
          | true => exact Option.some.inj stepped ▸ .resumesCallback rfl
          | false => contradiction
      | shielding started wait =>
          cases started with
          | true => exact move_of_waitStep rfl rfl stepped
          | false => contradiction
      | left => contradiction
  | bodyEnds =>
      cases place with
      | body suspended =>
          cases suspended with
          | false => exact move_of_shieldWait rfl stepped
          | true => contradiction
      | shielding _ _ | awaiting _ | left => contradiction
  | callbackStarts =>
      cases place with
      | shielding started wait =>
          cases started with
          | false => exact Option.some.inj stepped ▸ .starts rfl
          | true => contradiction
      | body _ | awaiting _ | left => contradiction
  | callbackEnds ended =>
      cases place with
      | awaiting suspended =>
          cases suspended with
          | false =>
              obtain ⟨done, same⟩ := Option.ite_none_right_eq_some.mp stepped
              exact Option.some.inj same ▸ .ends rfl done
          | true => contradiction
      | shielding started wait =>
          cases started with
          | true => exact move_of_waitStep rfl rfl stepped
          | false => contradiction
      | body _ | left => contradiction
  | innerCallback =>
      cases place with
      | shielding started wait => exact move_of_waitStep rfl rfl stepped
      | body _ | awaiting _ | left => contradiction

end CleanedUp

end Aiodrive
