import Aiodrive.Cleanup.Model
import Aiodrive.ConcurrentContexts.Exits

/-! `concurrent_contexts()` of `modules/concurrent_contexts.py`: the `gather()` that enters the
managers, the body, and `exit_contexts()`, which `cleaned_up()` calls. A manager is named by its
position among the arguments.
-/

namespace Aiodrive.ConcurrentContexts

variable {ε α : Type*}

/-- Where `concurrent_contexts()` is: at the `gather()` of the entries; at its `yield`; in
`shield_wait()`, with `exit_contexts()` in a task that has been started or not; or in
`exit_contexts()` itself.
-/
inductive Phase (ε : Type*) where
  | entering
  | body
  | shielding (exits : Option (Exits Nat ε)) (wait : ShieldWait.State (Raised ε) Unit)
  | awaiting (exits : Exits Nat ε)

structure State (ε α : Type*) where
  context : ShieldContext
  entry : Gather.State Nat ε α
  openManagers : List Nat
  phase : Phase ε

/-- `await context.shield(exit_contexts())` up to its first suspension. -/
def State.cleanUp (state : State ε α) : State ε α :=
  let shieldCount := state.context.shieldCount 1
  { state with
    phase :=
      if shieldCount ≤ 0 then .awaiting (.start state.openManagers)
      else .shielding none (.initial shieldCount .pending) }

/-- Where the `gather()` of the entries has ended, the body begins, or an exception skips it. -/
def State.afterEntry (state : State ε α) : State ε α :=
  match state.entry.pc with
  | .firstWait | .loopWait _ _ => state
  | .exited (.returned _) => { state with phase := .body }
  | .exited (.raised _) => state.cleanUp

/-- The call with `count` managers in a task with `cancelling` requests outstanding. -/
def State.initial (count cancelling : Nat) : State ε α :=
  State.afterEntry
    { context := { initialCancellationCount := cancelling }
      entry := .initial true (List.range count) (fun _ => .pending)
      openManagers := []
      phase := .entering }

/-- `enter_context()`, from where `__aenter__` has completed or raised. A task that is cancelled
while it completes ends as cancelled, with its manager open.
-/
def State.enterContext (state : State ε α) (manager : Nat) (entered : Bool)
    (ended : FutureState ε α)
    : Option (State ε α) :=
  let ends := if entered then ended.exception?.isNone else ended.result?.isNone
  if manager ∈ state.entry.tasks ∧ ends then
    (Gather.step state.entry (.complete manager ended)).map (fun entry =>
      { state with
        entry
        openManagers :=
          if entered then state.openManagers ++ [manager] else state.openManagers })
  else
    none

/-- How a task ends whose coroutine has ended. -/
def exitState : Outcome ε (List Unit) → FutureState (Raised ε) Unit
  | .returned _ => .success ()
  | .raised .cancelledError => .cancelled
  | .raised error => .exception error

/-- The task of `exit_contexts()` ends with its `gather()`. -/
def endTask (exits : Exits Nat ε) (wait : ShieldWait.State (Raised ε) Unit)
    : Option (ShieldWait.State (Raised ε) Unit) :=
  match exits.gather.pc with
  | .exited outcome => ShieldWait.step wait (.innerEnds (exitState outcome))
  | .firstWait | .loopWait _ _ => some wait

def State.exitTask (state : State ε α) (exits : Exits Nat ε)
    (wait : ShieldWait.State (Raised ε) Unit)
    : Option (State ε α) :=
  (endTask exits wait).map (fun wait => { state with phase := .shielding (some exits) wait })

/-- What can happen: an entry ends, with its manager open or not; the caller is cancelled at a wait
of the entries, or the wait returns; the body ends, by whichever way; the task of `exit_contexts()`
starts; something happens to the exits; or a step of `shield_wait()`.
-/
inductive Event (ε α : Type*) where
  | entryEnds (manager : Nat) (entered : Bool) (ended : FutureState ε α)
  | entryCancelled (message : Option String)
  | entryReturns
  | bodyEnds
  | exitTaskStarts
  | exit (event : ExitEvent Nat ε)
  | innerCallback
  | cancel
  | resume
deriving DecidableEq, Repr

def State.waitStep (state : State ε α) (exits : Option (Exits Nat ε))
    (wait : ShieldWait.State (Raised ε) Unit) (event : ShieldWait.Event (Raised ε) Unit)
    : Option (State ε α) :=
  (ShieldWait.step wait event).map (fun wait =>
    { state with phase := .shielding exits wait })

/-- A `CancelledError` may come to the exits at each of their waits, which is more often than the
shield lets one through.
-/
def step (state : State ε α) : Event ε α → Option (State ε α)
  | .entryEnds manager entered ended => state.enterContext manager entered ended
  | .entryCancelled message =>
      (Gather.step state.entry (.cancelCaller message)).map (fun entry => { state with entry })
  | .entryReturns =>
      (Gather.step state.entry .waitReturns).map (fun entry =>
        { state with entry }.afterEntry)
  | .bodyEnds =>
      match state.phase with
      | .body => some state.cleanUp
      | .entering | .shielding _ _ | .awaiting _ => none
  | .exitTaskStarts =>
      match state.phase with
      | .shielding none wait => state.exitTask (.start state.openManagers) wait
      | .entering | .body | .shielding (some _) _ | .awaiting _ => none
  | .exit event =>
      match state.phase with
      | .shielding (some exits) wait =>
          (exits.step event).bind (fun exits => state.exitTask exits wait)
      | .awaiting exits =>
          (exits.step event).map (fun exits => { state with phase := .awaiting exits })
      | .entering | .body | .shielding none _ => none
  | .innerCallback =>
      match state.phase with
      | .shielding exits wait => state.waitStep exits wait .innerCallback
      | .entering | .body | .awaiting _ => none
  | .cancel =>
      match state.phase with
      | .shielding exits wait => state.waitStep exits wait .cancel
      | .entering | .body | .awaiting _ => none
  | .resume =>
      match state.phase with
      -- The task was created before its caller was suspended, and starts before that resumes
      | .shielding (some exits) wait => state.waitStep (some exits) wait .resume
      | .entering | .body | .shielding none _ | .awaiting _ => none

/-- The exits, once `exit_contexts()` has begun. -/
def State.exits? (state : State ε α) : Option (Exits Nat ε) :=
  match state.phase with
  | .entering | .body => none
  | .shielding exits _ => exits
  | .awaiting exits => some exits

/-- The context has been left. -/
def State.Left (state : State ε α) : Prop :=
  match state.phase with
  | .entering | .body => False
  | .shielding _ wait => ∃ outcome, wait.place = .exited outcome
  | .awaiting exits => ∃ outcome, exits.gather.pc = .exited outcome

end Aiodrive.ConcurrentContexts
