import Aiodrive.Gather.Outcome
import Mathlib.Data.List.Indexes

/-! The generator of `amass()` in `modules/amass.py`, from one suspension or `yield` to the
next, with the `gather()` call of its `finally` block inlined where it awaits it.
-/

namespace Aiodrive.Amass

variable {ι ε α : Type*}

/-- A future that the generator adds to `all_futures`: the one of an awaitable that it took, or
the one of `terminate(awaitable)` for the awaitable left at a position of the iterator.
-/
inductive Created (ι : Type*) where
  | future (item : ι)
  | terminate (position : Nat) (item : ι)
deriving DecidableEq, Repr

/-- How the generator leaves its `try` block: by `break`, by `return`, or by the `GeneratorExit`
that `aclose()` throws at a `yield`.
-/
inductive Ending where
  | broke
  | returned
  | closed
deriving DecidableEq, Repr

/-- What follows the `finally` block once `gather()` has returned. Only a `break` goes on to
`if cancelled: raise asyncio.CancelledError`.
-/
def Ending.outcome (cancelled : Bool) : Ending → Outcome ε Unit
  | .broke => if cancelled then .raised .cancelledError else .returned ()
  | .returned | .closed => .returned ()

/-- Where the generator is: before its first step, at its wait, at the `yield` with the rest of
`done_futures` to visit, at the `gather()` of its `finally` block, or at its end.
-/
inductive Pc (ι ε α : Type*) where
  | unstarted
  | waiting
  | yielding (rest : List ι)
  | closing (ending : Ending) (gather : Gather.Pc ε α)
  | exited (outcome : Outcome ε Unit)
deriving DecidableEq, Repr

/-- The message of the cancel requests that `amass()` makes. -/
def closingMessage : String := "Amass iterator closing"

/-- `await gather(all_futures, sensitive=False)`, then the end of the generator -/
def afterGather (cancelled : Bool) (ending : Ending) : Gather.Pc ε α → Pc ι ε α
  | .exited (.returned _) => .exited (ending.outcome cancelled)
  | .exited (.raised error) => .exited (.raised error)
  | gather => .closing ending gather

/-- The local variables of the generator, with the state of the event loop and what the
generator did: the results it yielded, the `done_futures` of each wait and the cancel requests
it made. The elements of `ι` stand for the futures of `ensure_future(awaitable)`, the same one
where a task is repeated; sets are lists without repetition.
-/
structure State (ι ε α : Type*) where
  maxConcurrentCount : Option Nat
  sensitive : Bool
  awaitablesIter : List ι
  allFutures : List (Created ι)
  pendingFutures : List ι
  cancelled : Bool
  table : TaskTable (Created ι) ε α
  pc : Pc ι ε α
  yielded : List α
  rounds : List (List ι)
  requests : List (CancelRequest (Created ι))

def State.initial (maxConcurrentCount : Option Nat) (sensitive : Bool) (awaitables : List ι)
    (table : TaskTable (Created ι) ε α)
    : State ι ε α :=
  { maxConcurrentCount
    sensitive
    awaitablesIter := awaitables
    allFutures := []
    pendingFutures := []
    cancelled := false
    table
    pc := .unstarted
    yielded := []
    rounds := []
    requests := [] }

/-- The states of the futures of the awaitables. -/
def State.futures (state : State ι ε α) : TaskTable ι ε α :=
  fun item => state.table (.future item)

/-- The `finally` block up to its first suspension. -/
def State.leave (state : State ι ε α) (ending : Ending) : State ι ε α :=
  let allFutures := state.allFutures ++ state.awaitablesIter.mapIdx .terminate
  { state with
    awaitablesIter := []
    allFutures
    pc := afterGather state.cancelled ending (Gather.start false allFutures)
    requests := state.requests
      ++ cancelAll (state.pendingFutures.map .future) (some closingMessage) }

/-- `done_futures, pending_futures = await asyncio.wait(...)` -/
def State.assignWait (state : State ι ε α) (doneFutures pendingFutures : List ι) : State ι ε α :=
  { state with pendingFutures, rounds := state.rounds ++ [doneFutures] }

variable [DecidableEq ι]

/-- The inner `while` loop, over `awaitables_iter`, `pending_futures` and `all_futures`. -/
def refill (maxConcurrentCount : Option Nat)
    : List ι → List ι → List (Created ι) → List ι × List ι × List (Created ι)
  | [], pendingFutures, allFutures => ([], pendingFutures, allFutures)
  | item :: rest, pendingFutures, allFutures =>
      if maxConcurrentCount.all (fun count => pendingFutures.length < count) then
        refill maxConcurrentCount rest (pendingFutures.insert item)
          (allFutures.insert (.future item))
      else
        (item :: rest, pendingFutures, allFutures)

/-- The local variables after the inner `while` loop. -/
def State.refill (state : State ι ε α) : State ι ε α :=
  let (awaitablesIter, pendingFutures, allFutures) :=
    Amass.refill state.maxConcurrentCount state.awaitablesIter state.pendingFutures
      state.allFutures
  { state with awaitablesIter, pendingFutures, allFutures }

/-- The outer `while` loop, from the start of its body to the wait. -/
def State.turn (state : State ι ε α) : State ι ε α :=
  if state.refill.pendingFutures.isEmpty then state.refill.leave .broke
  else { state.refill with pc := .waiting }

/-- The loop over `done_futures`, from the futures still to visit to the next `yield` or past
its end.
-/
def State.iterate (state : State ι ε α) : List ι → State ι ε α
  | [] => state.turn
  | future :: rest =>
      match (state.futures future).result with
      | .returned result =>
          { state with yielded := state.yielded ++ [result], pc := .yielding rest }
      | .raised _ => if state.sensitive then state.leave .returned else state.iterate rest

/-- A turn of the outer loop ends no future. -/
theorem State.turn_table (state : State ι ε α) : state.turn.table = state.table := by
  unfold State.turn
  split <;> rfl

/-- Visiting done futures ends no future, by induction on those still to visit. -/
theorem State.iterate_table (state : State ι ε α) (rest : List ι)
    : (state.iterate rest).table = state.table := by
  induction rest with
  | nil => exact state.turn_table
  | cons future rest ih =>
      unfold State.iterate
      split
      · rfl
      · split
        · rfl
        · exact ih

/-- Resumes the `gather()` that the `finally` block awaits. -/
def State.resumeGather (state : State ι ε α) (ending : Ending) (gather : Gather.Pc ε α)
    (result : WaitResume)
    : State ι ε α :=
  let (gather, requests) := Gather.resume state.allFutures state.table gather result
  { state with
    pc := afterGather state.cancelled ending gather
    requests := state.requests ++ requests }

-----------------------------------------------------------------------------------------
-- Runs of one iterator
-----------------------------------------------------------------------------------------

/-- What can happen to the iterator: its consumer asks for the next result or closes it, a
future ends, a `CancelledError` is delivered to the consumer while the generator is suspended,
or one of its waits returns. The two sets that `asyncio.wait()` returns are given in their
iteration order.
-/
inductive Event (ι ε α : Type*) where
  | next
  | close
  | complete (created : Created ι) (state : FutureState ε α)
  | cancelCaller (message : Option String)
  | waitReturns (doneFutures pendingFutures : List ι)
  | gatherReturns
deriving DecidableEq, Repr

/-- The futures that can end: those created, and those of the awaitables not taken yet. -/
def State.Exists (state : State ι ε α) : Created ι → Prop
  | .future item => .future item ∈ state.allFutures ∨ item ∈ state.awaitablesIter
  | .terminate position item => .terminate position item ∈ state.allFutures

instance (state : State ι ε α) : ∀ created, Decidable (state.Exists created)
  | .future item =>
      inferInstanceAs (Decidable (.future item ∈ state.allFutures ∨ item ∈ state.awaitablesIter))
  | .terminate position item =>
      inferInstanceAs (Decidable (.terminate position item ∈ state.allFutures))

/-- An iterator that was closed or has ended is asked for nothing more. -/
def step (state : State ι ε α) : Event ι ε α → Option (State ι ε α)
  | .next =>
      match state.pc with
      | .unstarted => some state.turn
      | .yielding rest => some (state.iterate rest)
      | .waiting | .closing _ _ | .exited _ => none
  | .close =>
      match state.pc with
      | .unstarted => some { state with pc := .exited (.returned ()) }
      | .yielding _ => some (state.leave .closed)
      | .waiting | .closing _ _ | .exited _ => none
  | .complete created ended =>
      if state.Exists created then
        (complete state.table created ended).map (fun table => { state with table })
      else
        none
  | .cancelCaller message =>
      match state.pc with
      | .waiting => some ({ state with cancelled := true }.leave .returned)
      | .closing ending gather =>
          some (state.resumeGather ending gather (.cancelledError message))
      | .unstarted | .yielding _ | .exited _ => none
  | .waitReturns doneFutures pendingFutures =>
      match state.pc with
      | .waiting =>
          if doneFutures ≠ []
              ∧ doneFutures.Perm (doneTasks state.pendingFutures state.futures)
              ∧ pendingFutures.Perm (pendingTasks state.pendingFutures state.futures) then
            some ((state.assignWait doneFutures pendingFutures).iterate doneFutures)
          else
            none
      | .unstarted | .yielding _ | .closing _ _ | .exited _ => none
  | .gatherReturns =>
      match state.pc with
      | .closing ending gather =>
          gather.returnWhen.bind (fun returnWhen =>
            if waitReady state.allFutures state.table returnWhen then
              some (state.resumeGather ending gather .returned)
            else
              none)
      | .unstarted | .waiting | .yielding _ | .exited _ => none

end Aiodrive.Amass
