import Aiodrive.Asyncio.Future

/-! `prime()` of `modules/prime.py`: the first step of an awaitable is taken at once and its outcome
stored, and a hand-written coroutine replays it and then delegates to the awaitable.
-/

namespace Aiodrive.Prime

variable {σ ν ρ ε : Type*}

/-- An exception, by its class and arguments, and its `__cause__`. -/
structure Thrown (ε : Type*) where
  error : ε
  cause : Option ε
deriving DecidableEq, Repr

/-- `raise error from None` -/
def Thrown.fromNone (thrown : Thrown ε) : Thrown ε := { thrown with cause := none }

/-- What a driver does to a suspended coroutine. -/
inductive Input (ν ε : Type*) where
  | send (value : ν)
  | throw (thrown : Thrown ε)
deriving DecidableEq, Repr

/-- How a resumed coroutine goes on: it yields and is suspended in a new state, or it ends. -/
inductive Reply (σ ν ρ ε : Type*) where
  | yielded (value : ν) (state : σ)
  | returned (value : ρ)
  | raised (thrown : Thrown ε)
deriving DecidableEq, Repr

/-- The iterator that `awaitable.__await__()` returns. -/
abbrev Process (σ ν ρ ε : Type*) := σ → Input ν ε → Reply σ ν ρ ε

/-- What a driver sees of a reply. -/
inductive Seen (ν ρ ε : Type*) where
  | yielded (value : ν)
  | returned (value : ρ)
  | raised (thrown : Thrown ε)
deriving DecidableEq, Repr

def Reply.seen : Reply σ ν ρ ε → Seen ν ρ ε
  | yielded value _ => .yielded value
  | returned value => .returned value
  | raised thrown => .raised thrown

/-- What reaches the awaitable, and what the driver sees, at each input until the end. -/
abbrev Trace (ν ρ ε : Type*) := List (Input ν ε × Seen ν ρ ε)

-----------------------------------------------------------------------------------------
-- The awaitable driven directly
-----------------------------------------------------------------------------------------

def drive (process : Process σ ν ρ ε) : σ → List (Input ν ε) → Trace ν ρ ε
  | _, [] => []
  | state, input :: rest =>
      let reply := process state input
      (input, reply.seen) ::
        match reply with
        | .yielded _ next => drive process next rest
        | .returned _ | .raised _ => []

-----------------------------------------------------------------------------------------
-- The primed awaitable
-----------------------------------------------------------------------------------------

/-- An exception that `generator.send()` raises to its caller: `StopIteration` carries the value
that the generator returns.
-/
inductive Failure (ρ ε : Type*) where
  | stopIteration (value : ρ)
  | exception (thrown : Thrown ε)
deriving DecidableEq, Repr

section

/-! `cancels` tells which exceptions are a `CancelledError`, and `plain` is `CancelledError()`. -/

variable (cancels : ε → Bool) (plain : ε)

/-- `FutureState.absorb_lambda(generator.send, None)`, of the reply to the call. -/
def absorbLambda : Reply σ ν ρ ε → FutureState (Failure ρ ε) ν
  | .yielded value _ => .success value
  | .returned value => .exception (.stopIteration value)
  | .raised thrown =>
      if cancels thrown.error then .cancelled else .exception (.exception thrown)

/-- `value = hint.apply()` in `inner()`, up to the first `yield` or the end. A hint is not pending.
-/
def applyHint : FutureState (Failure ρ ε) ν → Option (Seen ν ρ ε)
  | .cancelled => some (.raised { error := plain, cause := none })
  | .exception (.stopIteration value) => some (.returned value)
  | .exception (.exception thrown) => some (.raised thrown.fromNone)
  | .pending => none
  | .success value => some (.yielded value)

end

/-- What `inner()` does to the generator with an input at its `yield value`. -/
def delegate (value : ν) : Input ν ε → Input ν ε
  | .throw thrown => .throw thrown
  | .send _ => .send value

/-- The loop of `inner()`, suspended at its `yield value`. -/
def driveInner (process : Process σ ν ρ ε) : σ → ν → List (Input ν ε) → Trace ν ρ ε
  | _, _, [] => []
  | state, value, input :: rest =>
      let reply := process state (delegate value input)
      (delegate value input, reply.seen) ::
        match reply with
        | .yielded value next => driveInner process next value rest
        | .returned _ | .raised _ => []

/-- The primed awaitable under a driver that sends `None` first. The first step of the awaitable
has been taken by then.
-/
def drivePrimed (cancels : ε → Bool) (plain : ε) (process : Process σ ν ρ ε) (start : σ)
    (noneValue : ν) (inputs : List (Input ν ε))
    : Trace ν ρ ε :=
  let reply := process start (.send noneValue)
  match applyHint plain (absorbLambda cancels reply) with
  | none => []
  | some seen =>
      (.send noneValue, seen) ::
        match reply with
        | .yielded value next => driveInner process next value inputs
        | .returned _ | .raised _ => []

-----------------------------------------------------------------------------------------
-- When the two agree
-----------------------------------------------------------------------------------------

/-- Each value that is sent is the one that the awaitable has just yielded. -/
def Echoes (process : Process σ ν ρ ε) : σ → ν → List (Input ν ε) → Prop
  | _, _, [] => True
  | state, value, input :: rest =>
      (∀ sent, input = .send sent → sent = value)
      ∧ ∀ yielded next,
          process state input = .yielded yielded next → Echoes process next yielded rest

theorem delegate_eq_iff {value : ν} {input : Input ν ε}
    : delegate value input = input ↔ ∀ sent, input = .send sent → sent = value := by
  cases input with
  | send sent => simp [delegate, eq_comm]
  | throw thrown => simp [delegate]

/-- The delegation passes the inputs on unchanged, and with them gets the same replies, exactly when
the driver echoes what is yielded; by induction on the inputs.
-/
theorem driveInner_eq_iff (process : Process σ ν ρ ε) (state : σ) (value : ν)
    (inputs : List (Input ν ε))
    : driveInner process state value inputs = drive process state inputs
      ↔ Echoes process state value inputs := by
  induction inputs generalizing state value with
  | nil => simp [driveInner, drive, Echoes]
  | cons input rest ih =>
      simp only [driveInner, drive, Echoes, List.cons.injEq, Prod.mk.injEq, ← delegate_eq_iff]
      constructor
      · rintro ⟨⟨same, -⟩, later⟩
        refine ⟨same, fun yielded next reply => ?_⟩
        rw [same, reply] at later
        exact (ih next yielded).mp later
      · rintro ⟨same, later⟩
        rw [same]
        refine ⟨⟨rfl, rfl⟩, ?_⟩
        cases reply : process state input with
        | yielded yielded next => exact (ih next yielded).mpr (later yielded next reply)
        | returned value => rfl
        | raised thrown => rfl

/-- The first step raises no exception with a cause, and no `CancelledError` but a plain one. -/
def FirstStepKept (cancels : ε → Bool) (plain : ε) (process : Process σ ν ρ ε) (start : σ)
    (noneValue : ν)
    : Prop :=
  ∀ thrown,
    process start (.send noneValue) = .raised thrown
    → thrown.cause = none ∧ (cancels thrown.error = true → thrown.error = plain)

/-- The values sent after the first step are echoes. -/
def EchoesFrom (process : Process σ ν ρ ε) (start : σ) (noneValue : ν) (inputs : List (Input ν ε))
    : Prop :=
  ∀ value next,
    process start (.send noneValue) = .yielded value next → Echoes process next value inputs

theorem fromNone_eq_iff (thrown : Thrown ε) : thrown.fromNone = thrown ↔ thrown.cause = none := by
  cases thrown
  simp [Thrown.fromNone, eq_comm]

/-- An exception of the first step is stored and raised again as it is, or not. -/
theorem applyHint_raised_iff (cancels : ε → Bool) (plain : ε) (thrown : Thrown ε)
    : applyHint plain (absorbLambda cancels (.raised thrown : Reply σ ν ρ ε))
        = some (.raised thrown)
      ↔ thrown.cause = none ∧ (cancels thrown.error = true → thrown.error = plain) := by
  cases isCancelled : cancels thrown.error with
  | true =>
      cases thrown
      simp [absorbLambda, isCancelled, applyHint, eq_comm, and_comm]
  | false => simp [absorbLambda, isCancelled, applyHint, fromNone_eq_iff]

/-- `prime()` is transparent to a driver exactly when the driver sends back what the awaitable has
just yielded, and the first step raises no exception with a cause and no `CancelledError` but a
plain one.
-/
theorem prime_transparent_iff (cancels : ε → Bool) (plain : ε) (process : Process σ ν ρ ε)
    (start : σ) (noneValue : ν) (inputs : List (Input ν ε))
    : drivePrimed cancels plain process start noneValue inputs
        = drive process start (.send noneValue :: inputs)
      ↔ FirstStepKept cancels plain process start noneValue
        ∧ EchoesFrom process start noneValue inputs := by
  unfold FirstStepKept EchoesFrom
  cases reply : process start (.send noneValue) with
  | yielded value next =>
      simp [drivePrimed, drive, reply, absorbLambda, applyHint, Reply.seen, driveInner_eq_iff]
  | returned value =>
      simp [drivePrimed, drive, reply, absorbLambda, applyHint, Reply.seen]
  | raised thrown =>
      have kept := applyHint_raised_iff (σ := σ) (ν := ν) (ρ := ρ) cancels plain thrown
      simp only [Reply.raised.injEq, forall_eq', reduceCtorEq, IsEmpty.forall_iff, implies_true,
        and_true, ← kept, drivePrimed, drive, reply, Reply.seen]
      cases hint : applyHint plain (absorbLambda cancels (.raised thrown : Reply σ ν ρ ε)) with
      | none => simp
      | some seen => simp

/-- An awaitable that yields once, and returns what is sent then. -/
def echo : Process Bool Nat Nat String
  | false, .send _ => .yielded 7 true
  | true, .send value => .returned value
  | _, .throw thrown => .raised thrown

/-- An awaitable whose first step raises. -/
def raises (error : String) (cause : Option String) : Process Unit Nat Nat String :=
  fun _ _ => .raised { error, cause }

/-- The two `CancelledError` of the examples. -/
def cancelledErrors (error : String) : Bool :=
  error = "CancelledError()" || error = "CancelledError(1)"

/-- A driver that sends another value than the one that was yielded, and first steps that raise a
`CancelledError` with an argument and an exception with a cause.
-/
theorem prime_not_transparent
    : drivePrimed cancelledErrors "CancelledError()" echo false 0 [.send 5]
        ≠ drive echo false [.send 0, .send 5]
      ∧ drivePrimed cancelledErrors "CancelledError()" (raises "CancelledError(1)" none) () 0 []
        ≠ drive (raises "CancelledError(1)" none) () [.send 0]
      ∧ drivePrimed cancelledErrors "CancelledError()" (raises "OSError()" (some "KeyError()")) ()
          0 []
        ≠ drive (raises "OSError()" (some "KeyError()")) () [.send 0] := by
  decide

end Aiodrive.Prime
