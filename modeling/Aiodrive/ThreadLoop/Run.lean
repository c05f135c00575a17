import Aiodrive.Shield.WaitForever
import Aiodrive.ThreadLoop.Model

/-! `run_in_thread_loop()` of `modules/thread_loop.py`: the caller waits for the stage to change
twice and then for the executor, and keeps the cancellations that arrive meanwhile.
-/

namespace Aiodrive.RunInThreadLoop

open ThreadLoop

variable {ε α : Type*}

/-- The predicate of `launch_in_thread_loop()`. -/
def isStarted (value : Stage) : Bool := value ≠ .preparing

/-- The predicate of `finish()`. -/
def isJoin (value : Stage) : Bool := value = .join

/-- Where the caller is: in the loop that waits for the task to start, in the loop of `finish()`, in
`shield_wait_forever(thread_future)`, or at its end.
-/
inductive Caller (ε α : Type*) where
  | launching
  | finishing
  | shielding (shield : ShieldWaitForever.State ε Unit)
  | exited (outcome : Outcome ε α)
deriving DecidableEq, Repr

/-- The thread, its future in the loop of the caller, and the caller with its variable `cancelled`,
the number of `CancelledError` that were thrown into it, and that of `task.cancel()` calls that
the loop of the task accepted.
-/
structure State (ε α : Type*) where
  worker : ThreadLoop.State ε α
  threadFuture : FutureState ε Unit
  caller : Caller ε α
  cancelled : Bool
  deliveries : Nat
  requests : Nat

/-- What can happen: the thread goes on, or its future ends in the loop of the caller; that loop
runs a `set_result` of the stage, or the caller: a check of the stage, a cancellation, a
resumption, or what `shield_wait_forever()` does by itself.
-/
inductive Event (ε α : Type*) where
  | thread (event : ThreadEvent ε α)
  | threadFutureEnds
  | setResult (future : Nat)
  | check
  | cancel
  | resume
  | iterate
  | innerCallback
deriving DecidableEq, Repr

/-- `stage.wait_until(fn)`, up to its first check. -/
def State.waitUntil (state : State ε α) (fn : Stage → Bool) (caller : Caller ε α) : State ε α :=
  let stage := state.worker.stage.begin () (.checking fn (some 0))
  { state with worker := { state.worker with stage }, caller }

/-- `launch_in_thread_loop(target)`, up to the first check of the stage. -/
def State.initial : State ε α :=
  { worker := .initial, threadFuture := .pending, caller := .launching, cancelled := false,
    deliveries := 0, requests := 0 : State ε α }.waitUntil isStarted .launching

/-- `task.get_loop().call_soon_threadsafe(task.cancel)`, which the closed loop of the thread answers
with a `RuntimeError` that is caught.
-/
def State.cancelTask (state : State ε α) : State ε α :=
  if state.worker.attached && state.worker.place.Absorbed then state
  else { state with requests := state.requests + 1 }

/-- A `CancelledError` is caught. -/
def State.interrupt (state : State ε α) : State ε α :=
  { state with cancelled := true, deliveries := state.deliveries + 1 }

/-- From the end of the first loop to the beginning of the second one. -/
def State.finish (state : State ε α) : State ε α :=
  match state.worker.task with
  | some _ => (if state.cancelled then state.cancelTask else state).waitUntil isJoin .finishing
  | none => { state with caller := .exited (.raised .assertionError) }

/-- The end of `finish()` after `shield_wait_forever()` has returned. -/
def State.applyResult (state : State ε α) : Outcome ε α :=
  match state.worker.result with
  | some result =>
      match result.result with
      | .raised error => .raised error
      -- In case the task suppressed the CancelledError
      | .returned value => if state.cancelled then .raised .cancelledError else .returned value
  | none => .raised .assertionError

/-- The caller goes on where `stage.wait_until()` has returned, or has raised `CancelledError`. -/
def State.proceed (state : State ε α) : State ε α :=
  match state.worker.stage.clients (), state.caller with
  | .returned _ _, .launching => state.finish
  | .returned _ _, .finishing => { state with caller := .shielding (.initial state.threadFuture) }
  | .cancelled, .launching => state.interrupt.waitUntil isStarted .launching
  | .cancelled, .finishing => state.interrupt.cancelTask.waitUntil isJoin .finishing
  | _, _ => state

/-- The caller goes on where `shield_wait_forever()` has ended. -/
def State.conclude (state : State ε α) (shield : ShieldWaitForever.State ε Unit) : State ε α :=
  match shield.place with
  | .looping _ | .shielding _ _ => { state with caller := .shielding shield }
  | .exited outcome =>
      let deliveries := state.deliveries + shield.deliveries
      match outcome with
      | .raised error => { state with deliveries, caller := .exited (.raised error) }
      | .returned () => { state with deliveries, caller := .exited state.applyResult }

/-- A step of the caller in `stage.wait_until()`. -/
def State.awaitStage (state : State ε α) (event : ThreadsafeState.Event Unit Stage)
    : Option (State ε α) :=
  match state.caller with
  | .launching | .finishing =>
      (state.worker.onStage event).map (fun worker => { state with worker }.proceed)
  | .shielding _ | .exited _ => none

/-- A step of the caller in `shield_wait_forever()`. -/
def State.awaitShield (state : State ε α) (event : ShieldWaitForever.Event ε Unit)
    : Option (State ε α) :=
  match state.caller with
  | .shielding shield => (ShieldWaitForever.step shield event).map state.conclude
  | .launching | .finishing | .exited _ => none

/-- The executor sets the result of `thread_future`, which is never cancelled. -/
def State.endThreadFuture (state : State ε α) : Option (State ε α) :=
  if state.worker.place = .finished && !state.threadFuture.done then
    match state.caller with
    | .shielding shield =>
        (ShieldWaitForever.step shield (.innerEnds (.success ()))).map (fun shield =>
          { state with threadFuture := .success (), caller := .shielding shield })
    | .launching | .finishing | .exited _ => some { state with threadFuture := .success () }
  else
    none

def step (state : State ε α) : Event ε α → Option (State ε α)
  | .thread event => (threadStep state.worker event).map (fun worker => { state with worker })
  | .threadFutureEnds => state.endThreadFuture
  | .setResult future =>
      (state.worker.onStage (.setResult future)).map (fun worker => { state with worker })
  | .check => state.awaitStage (.check ())
  | .cancel => (state.awaitStage (.cancel ())).or (state.awaitShield .cancel)
  | .resume => (state.awaitStage (.resume ())).or (state.awaitShield .resume)
  | .iterate => state.awaitShield .iterate
  | .innerCallback => state.awaitShield .innerCallback

variable {state next final : State ε α} {events : List (Event ε α)}

-----------------------------------------------------------------------------------------
-- The caller in `stage.wait_until()`
-----------------------------------------------------------------------------------------

/-- The client is in `stage.wait_until(fn)` and has neither returned nor raised. -/
def AtWait (fn : Stage → Bool) : ThreadsafeState.Client Stage → Prop
  | .checking own loop => own = fn ∧ loop = some 0
  | .suspended own loop _ _ => own = fn ∧ loop = 0
  | .idle | .syncWaiting _ _ | .returned _ _ | .cancelled => False

/-- A step of the stage that the loop of the caller takes, or the caller itself. -/
def OfCaller : ThreadsafeState.Event Unit Stage → Prop
  | .check _ | .resume _ | .cancel _ | .setResult _ => True
  | .waitUntil .. | .waitUntilSync .. | .setValue _ | .updateValue _ | .closeLoop _ => False

theorem AtWait.notify {fn : Stage → Bool} {client : ThreadsafeState.Client Stage}
    (waits : AtWait fn client)
    : AtWait fn client.notify := by
  cases client <;> exact waits

/-- A step of the caller leaves it waiting, or finds a value that it waits for, or throws. -/
theorem AtWait.step {fn : Stage → Bool} {stage after : ThreadsafeState.State Unit Stage}
    {event : ThreadsafeState.Event Unit Stage} (waits : AtWait fn (stage.clients ()))
    (own : OfCaller event) (stepped : ThreadsafeState.step differs stage event = some after)
    : AtWait fn (after.clients ())
      ∨ after.clients () = .cancelled
      ∨ after.clients () = .returned fn stage.value ∧ fn stage.value = true := by
  cases ThreadsafeState.move_of_step stepped with
  | begins | beginsSync | setsValue | updates | closes => exact own.elim
  | @checks client predicate loop here =>
      rw [here] at waits
      obtain ⟨rfl, rfl⟩ := waits
      cases accepts : predicate stage.value with
      | true => exact .inr (.inr ⟨ThreadsafeState.clients_check_of_accepts _ _ _ accepts, rfl⟩)
      | false =>
          obtain ⟨future, suspended⟩ := ThreadsafeState.clients_check_async stage () 0 accepts
          exact .inl (suspended ▸ ⟨rfl, rfl⟩)
  | throws here => exact .inr (.inl (by simp [ThreadsafeState.State.setClient]))
  | resumes here =>
      rw [here] at waits
      left
      simpa [ThreadsafeState.State.setClient, AtWait] using waits
  | cancels here =>
      rw [here] at waits
      left
      simpa [ThreadsafeState.State.setClient, AtWait] using waits
  | resumesSync here => exact (here ▸ waits).elim
  | setsResult =>
      left
      unfold ThreadsafeState.State.setResult
      simp only
      split <;> exact waits

-----------------------------------------------------------------------------------------
-- The invariant
-----------------------------------------------------------------------------------------

/-- What `run_in_thread_loop()` owes at its end. -/
structure Joined (state : State ε α) (outcome : Outcome ε α) : Prop where
  finished : state.worker.place = .finished
  task
    : ∃ task,
        state.worker.task = some task
        ∧ task.done = true
        ∧ (state.deliveries = 0 → outcome = task.result)
  keeps : 0 < state.deliveries → ∀ value, outcome ≠ .returned value

/-- The variable `cancelled` tells of the deliveries. -/
def State.Told (state : State ε α) : Prop := state.cancelled = true ↔ 0 < state.deliveries

/-- What holds where the caller is. -/
def Caller.Sound (state : State ε α) : Caller ε α → Prop
  | launching => state.Told ∧ AtWait isStarted (state.worker.stage.clients ())
  | finishing => state.Told ∧ AtWait isJoin (state.worker.stage.clients ())
  | shielding shield =>
      state.Told
      ∧ state.worker.place.Joined
      ∧ shield.Sound
      ∧ shield.inner = state.threadFuture
  | exited outcome => Joined state outcome

/-- What holds of the thread and its future. -/
structure Steady (state : State ε α) : Prop where
  shows : state.worker.place.Shows state.worker.stage.value
  awaits : Awaits state.worker
  future
    : state.threadFuture = .pending
      ∨ state.threadFuture = .success () ∧ state.worker.place = .finished

structure Sound (state : State ε α) : Prop where
  steady : Steady state
  caller : state.caller.Sound state

theorem sound_initial : Sound (.initial : State ε α) where
  steady := ⟨rfl, awaits_initial.withStage _, .inl rfl⟩
  caller := ⟨by simp [State.Told, State.initial, State.waitUntil], rfl, rfl⟩

/-- A call of `stage.wait_until()` changes nothing that others rely on. -/
theorem Steady.waitUntil (steady : Steady state) (fn : Stage → Bool) (caller : Caller ε α)
    : Steady (state.waitUntil fn caller) :=
  ⟨steady.shows, steady.awaits.withStage _, steady.future⟩

theorem Steady.cancelTask (steady : Steady state) : Steady state.cancelTask := by
  unfold State.cancelTask
  split
  · exact steady
  · exact ⟨steady.shows, steady.awaits, steady.future⟩

@[simp] theorem told_cancelTask : state.cancelTask.Told ↔ state.Told := by
  unfold State.cancelTask
  split <;> rfl

theorem told_interrupt (state : State ε α) : state.interrupt.Told := by
  simp [State.Told, State.interrupt]

/-- The task has been created where the stage is past "preparing". -/
theorem Sound.finish (steady : Steady state) (told : state.Told)
    (started : isStarted state.worker.stage.value = true)
    : Sound state.finish := by
  have past : state.worker.place ≠ .starting := by
    intro here
    have preparing := steady.shows
    rw [here] at preparing
    simp [isStarted, show state.worker.stage.value = .preparing from preparing] at started
  obtain ⟨task, own⟩ := Option.isSome_iff_exists.mp (steady.awaits.created past).2
  simp only [State.finish, own]
  cases state.cancelled with
  | true =>
      refine ⟨steady.cancelTask.waitUntil _ _, ?_, rfl, rfl⟩
      exact told_cancelTask.mpr told
  | false => exact ⟨steady.waitUntil _ _, told, rfl, rfl⟩

/-- The caller goes on as it should from where `stage.wait_until()` is. -/
theorem Sound.proceed (steady : Steady state) (told : state.Told) {fn : Stage → Bool}
    (waiting : state.caller = .launching ∧ fn = isStarted ∨ state.caller = .finishing ∧ fn = isJoin)
    (place
      : AtWait fn (state.worker.stage.clients ())
        ∨ state.worker.stage.clients () = .cancelled
        ∨ state.worker.stage.clients () = .returned fn state.worker.stage.value
          ∧ fn state.worker.stage.value = true)
    : Sound state.proceed := by
  rcases place with waits | cancelled | ⟨returned, accepts⟩
  · have same : state.proceed = state := by
      unfold State.proceed
      cases client : state.worker.stage.clients () <;> simp_all [AtWait]
    rw [same]
    rcases waiting with ⟨here, rfl⟩ | ⟨here, rfl⟩
    · exact ⟨steady, here ▸ ⟨told, waits⟩⟩
    · exact ⟨steady, here ▸ ⟨told, waits⟩⟩
  · have interrupted : Steady state.interrupt := ⟨steady.shows, steady.awaits, steady.future⟩
    rcases waiting with ⟨here, rfl⟩ | ⟨here, rfl⟩
    · simp only [State.proceed, cancelled, here]
      exact ⟨interrupted.waitUntil _ _, told_interrupt state, rfl, rfl⟩
    · simp only [State.proceed, cancelled, here]
      refine ⟨interrupted.cancelTask.waitUntil _ _, ?_, rfl, rfl⟩
      exact told_cancelTask.mpr (told_interrupt state)
  · rcases waiting with ⟨here, rfl⟩ | ⟨here, rfl⟩
    · simp only [State.proceed, returned, here]
      exact Sound.finish steady told accepts
    · simp only [State.proceed, returned, here]
      have joined := steady.shows.joined_iff.mpr (by simpa [isJoin] using accepts)
      refine ⟨⟨steady.shows, steady.awaits, steady.future⟩, told, joined, ?_, rfl⟩
      exact ShieldWaitForever.sound_initial _

theorem Sound.awaitStage (sound : Sound state) {event : ThreadsafeState.Event Unit Stage}
    (stepped : state.awaitStage event = some next) (own : OfCaller event)
    : Sound next := by
  have caller := sound.caller
  unfold State.awaitStage at stepped
  have onStage {fn : Stage → Bool} (told : state.Told)
      (waits : AtWait fn (state.worker.stage.clients ()))
      (waiting
        : state.caller = .launching ∧ fn = isStarted ∨ state.caller = .finishing ∧ fn = isJoin)
      (moved
        : (state.worker.onStage event).map (fun worker => { state with worker }.proceed)
          = some next)
      : Sound next := by
    obtain ⟨worker, changed, rfl⟩ := Option.map_eq_some_iff.mp moved
    obtain ⟨stage, taken, rfl⟩ := Option.map_eq_some_iff.mp changed
    have value := ThreadsafeState.value_of_step
      (by cases event <;> first | exact own.elim | exact id) taken
    have place := waits.step own taken
    rw [← value] at place
    exact Sound.proceed
      ⟨value ▸ sound.steady.shows, sound.steady.awaits.withStage _, sound.steady.future⟩
      told waiting place
  split at stepped
  case h_1 here =>
      rw [here] at caller
      exact onStage caller.1 caller.2 (.inl ⟨here, rfl⟩) stepped
  case h_2 here =>
      rw [here] at caller
      exact onStage caller.1 caller.2 (.inr ⟨here, rfl⟩) stepped
  all_goals contradiction

/-- A `set_result` of the stage leaves the value and the caller where they are. -/
theorem Sound.setResult (sound : Sound state) {future : Nat} {worker : ThreadLoop.State ε α}
    (stepped : state.worker.onStage (.setResult future) = some worker)
    : Sound { state with worker } := by
  obtain ⟨stage, moved, rfl⟩ := Option.map_eq_some_iff.mp stepped
  have value := ThreadsafeState.value_of_step id moved
  have clients : stage.clients = state.worker.stage.clients := by
    cases ThreadsafeState.move_of_step moved with
    | setsResult =>
        unfold ThreadsafeState.State.setResult
        simp only
        split <;> rfl
  have caller := sound.caller
  refine ⟨⟨?_, sound.steady.awaits.withStage _, sound.steady.future⟩, ?_⟩
  · exact value ▸ sound.steady.shows
  · cases here : state.caller with
    | launching | finishing =>
        rw [here] at caller
        exact ⟨caller.1, clients ▸ caller.2⟩
    | shielding shield =>
        rw [here] at caller
        exact caller
    | exited outcome =>
        rw [here] at caller
        exact ⟨caller.finished, caller.task, caller.keeps⟩

-----------------------------------------------------------------------------------------
-- The caller in `shield_wait_forever()`
-----------------------------------------------------------------------------------------

/-- The result of the thread is applied, except that a cancellation is kept. -/
theorem applyResult_of_result {task : FutureState ε α} (own : state.worker.result = some task)
    : (state.cancelled = false → state.applyResult = task.result)
      ∧ (state.cancelled = true → ∀ value, state.applyResult ≠ .returned value) := by
  cases result : task.result with
  | raised error => simp [State.applyResult, own, result]
  | returned value =>
      cases cancelled : state.cancelled <;> simp [State.applyResult, own, result, cancelled]

/-- The end of `shield_wait_forever()` ends the whole, as owed. -/
theorem Sound.conclude (steady : Steady state) (told : state.Told)
    (joined : state.worker.place.Joined) {shield : ShieldWaitForever.State ε Unit}
    (sound : shield.Sound) (inner : shield.inner = state.threadFuture)
    : Sound (state.conclude shield) := by
  have going : Sound { state with caller := .shielding shield } :=
    ⟨⟨steady.shows, steady.awaits, steady.future⟩, told, joined, sound, inner⟩
  unfold State.conclude
  split
  case h_1 | h_2 => exact going
  case h_3 outcome ended =>
    have owed := sound
    rw [ShieldWaitForever.State.Sound, ended] at owed
    obtain ⟨done, _, same⟩ := owed
    have finished : state.threadFuture = .success () ∧ state.worker.place = .finished :=
      steady.future.resolve_left (fun pending => by simp [inner, pending] at done)
    rw [inner, finished.1] at same
    obtain ⟨task, own, taskDone, result⟩ :=
      steady.awaits.absorbed (by simp [finished.2, Place.Absorbed])
    have steady : Steady { state with caller := .shielding shield } := going.steady
    split
    case h_1 error =>
      have delivered : shield.deliveries ≠ 0 := by
        intro none
        simp [shieldedOutcome, none] at same
      refine ⟨⟨steady.shows, steady.awaits, steady.future⟩, finished.2,
        ⟨task, own, taskDone, ?_⟩, ?_⟩
      · intro none
        exact (delivered (Nat.add_eq_zero_iff.mp none).2).elim
      · simp
    case h_2 =>
      have none : shield.deliveries = 0 := by
        by_contra delivered
        simp [shieldedOutcome, delivered] at same
      obtain ⟨applied, kept⟩ := applyResult_of_result result
      refine ⟨⟨steady.shows, steady.awaits, steady.future⟩, finished.2,
        ⟨task, own, taskDone, ?_⟩, ?_⟩
      · intro undelivered
        apply applied
        by_contra cancelled
        have delivered := told.mp (by simpa using cancelled)
        exact Nat.ne_of_gt delivered (Nat.add_eq_zero_iff.mp undelivered).1
      · intro delivered
        exact kept (told.mpr (by simpa [none] using delivered))

theorem Sound.awaitShield (sound : Sound state) {event : ShieldWaitForever.Event ε Unit}
    (own : ∀ ended, event ≠ .innerEnds ended) (stepped : state.awaitShield event = some next)
    : Sound next := by
  have caller := sound.caller
  unfold State.awaitShield at stepped
  split at stepped
  case h_1 shield here =>
      rw [here] at caller
      obtain ⟨told, joined, shielded, inner⟩ := caller
      obtain ⟨after, moved, rfl⟩ := Option.map_eq_some_iff.mp stepped
      exact Sound.conclude sound.steady told joined
        (ShieldWaitForever.step_sound shielded moved)
        ((ShieldWaitForever.inner_of_step own moved).trans inner)
  all_goals contradiction

/-- The executor's future ends for `shield_wait_forever()` too. -/
theorem Sound.endThreadFuture (sound : Sound state) (stepped : state.endThreadFuture = some next)
    : Sound next := by
  have caller := sound.caller
  simp only [State.endThreadFuture, Option.ite_none_right_eq_some, Bool.and_eq_true,
    decide_eq_true_eq] at stepped
  obtain ⟨⟨finished, _⟩, stepped⟩ := stepped
  have steady : Steady { state with threadFuture := .success () } :=
    ⟨sound.steady.shows, sound.steady.awaits, .inr ⟨rfl, finished⟩⟩
  split at stepped
  case h_1 shield here =>
      rw [here] at caller
      obtain ⟨told, joined, shielded, inner⟩ := caller
      obtain ⟨after, moved, rfl⟩ := Option.map_eq_some_iff.mp stepped
      refine ⟨⟨steady.shows, steady.awaits, steady.future⟩, told, joined, ?_, ?_⟩
      · exact ShieldWaitForever.step_sound shielded moved
      · cases ShieldWaitForever.move_of_step moved with
        | ends => rfl
  case h_2 here | h_3 here =>
      obtain rfl := Option.some.inj stepped
      rw [here] at caller
      exact ⟨steady, by rw [here]; exact caller⟩
  case h_4 outcome here =>
      obtain rfl := Option.some.inj stepped
      rw [here] at caller
      exact ⟨steady, by rw [here]; exact ⟨caller.finished, caller.task, caller.keeps⟩⟩

-----------------------------------------------------------------------------------------
-- The thread
-----------------------------------------------------------------------------------------

/-- Nothing happens in a thread that has finished, with its task done. -/
theorem no_threadStep_of_finished {worker after : ThreadLoop.State ε α} {event : ThreadEvent ε α}
    (stepped : threadStep worker event = some after)
    (finished : worker.place = .finished) {task : FutureState ε α}
    (own : worker.task = some task) (done : task.done = true)
    : False := by
  cases threadMove_of_step stepped with
  | ends pending =>
      rw [Option.some.inj (own.symm.trans pending)] at done
      contradiction
  | wraps here | hands here | refuses here | setsRunning here | runs here | raises here
  | setsJoin here | finishes here => simp [finished] at here

/-- The thread leaves a caller in `stage.wait_until()` there. -/
theorem AtWait.threadStep {worker after : ThreadLoop.State ε α} {event : ThreadEvent ε α}
    {fn : Stage → Bool} (waits : AtWait fn (worker.stage.clients ()))
    (stepped : ThreadLoop.threadStep worker event = some after)
    : AtWait fn (after.stage.clients ()) := by
  rcases stage_threadStep stepped with ⟨stage, _⟩ | ⟨value, stage, _⟩
  · exact stage ▸ waits
  · rw [stage, clients_setValue]
    split
    · exact waits
    · exact waits.notify

theorem Sound.thread (sound : Sound state) {event : ThreadEvent ε α}
    {worker : ThreadLoop.State ε α} (wrapped : event.Wrapped)
    (stepped : threadStep state.worker event = some worker)
    : Sound { state with worker } := by
  obtain ⟨⟨shows, awaits, future⟩, caller⟩ := sound
  have unfinished : state.worker.place ≠ .finished := by
    intro finished
    obtain ⟨task, own, done, _⟩ := awaits.absorbed (by simp [finished, Place.Absorbed])
    exact no_threadStep_of_finished stepped finished own done
  have pending : state.threadFuture = .pending :=
    future.resolve_right (fun ended => unfinished ended.2)
  refine ⟨⟨shows_threadStep shows stepped, awaits.threadStep wrapped stepped, .inl pending⟩, ?_⟩
  cases here : state.caller with
  | launching | finishing =>
      rw [here] at caller
      exact ⟨caller.1, caller.2.threadStep stepped⟩
  | shielding shield =>
      rw [here] at caller
      obtain ⟨told, joined, shielded, inner⟩ := caller
      rcases stage_threadStep stepped with ⟨_, same⟩ | ⟨_, _, unjoined, _⟩
      · exact ⟨told, same.mpr joined, shielded, inner⟩
      · exact (unjoined joined).elim
  | exited outcome =>
      rw [here] at caller
      exact (unfinished caller.finished).elim

-----------------------------------------------------------------------------------------
-- Whole runs
-----------------------------------------------------------------------------------------

/-- `ensure_future()` does not raise on the target, and does not return a future of another loop
that is pending.
-/
def Event.Wrapped : Event ε α → Prop
  | .thread event => event.Wrapped
  | .threadFutureEnds | .setResult _ | .check | .cancel | .resume | .iterate | .innerCallback =>
      True

theorem Sound.step (sound : Sound state) {event : Event ε α} (wrapped : event.Wrapped)
    (stepped : RunInThreadLoop.step state event = some next)
    : Sound next := by
  cases event with
  | thread event =>
      obtain ⟨worker, moved, rfl⟩ := Option.map_eq_some_iff.mp stepped
      exact sound.thread wrapped moved
  | threadFutureEnds => exact sound.endThreadFuture stepped
  | setResult future =>
      obtain ⟨worker, moved, rfl⟩ := Option.map_eq_some_iff.mp stepped
      exact sound.setResult moved
  | check => exact sound.awaitStage stepped trivial
  | cancel | resume =>
      rcases Option.or_eq_some_iff.mp stepped with staged | ⟨_, shielded⟩
      · exact sound.awaitStage staged trivial
      · exact sound.awaitShield (by simp) shielded
  | iterate | innerCallback => exact sound.awaitShield (by simp) stepped

end Aiodrive.RunInThreadLoop
