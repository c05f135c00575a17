import Aiodrive.ThreadsafeState.Model

/-! The thread of `launch_in_thread_loop()` and `launch_in_thread_loop_sync()`, from
`modules/thread_loop.py` and `modules/thread_sync.py`: the two have the same `thread_main()`,
which tells of its progress through the `ThreadsafeState` named `stage`.
-/

namespace Aiodrive.ThreadLoop

variable {ε α : Type*}

/-- The values of `stage`. -/
inductive Stage where
  | preparing
  | running
  | join
deriving DecidableEq, Repr

/-- The `!=` of the values. -/
def differs (left right : Stage) : Bool := left ≠ right

/-- Where `thread_main()` is: before `ensure_future(target)`; after it, with the first call of
`stage.set_value()` scheduled; after that call, in `asyncio.run()`; after `asyncio.run()`; after
its own `stage.set_value("join")`; or at its end.
-/
inductive Place where
  | starting
  | created
  | running
  | absorbed
  | joined
  | finished
deriving DecidableEq, Repr

/-- `stage` with the thread that launches as its one client, the variables `task` and `result` that
the two threads share, and whether `await task` can wait in the loop of the thread.
-/
structure State (ε α : Type*) where
  stage : ThreadsafeState.State Unit Stage
  place : Place
  task : Option (FutureState ε α)
  attached : Bool
  result : Option (FutureState ε α)

def State.initial : State ε α :=
  { stage := .initial .preparing, place := .starting, task := none, attached := false,
    result := none }

/-- What `thread_main()` does, and the end of its task. `ensure_future()` wraps the target in a task
of the new loop, or returns a future of another loop as it is, or raises. `await task` raises on
a future of another loop that is not done.
-/
inductive ThreadEvent (ε α : Type*) where
  | ensureFuture
  | ensureFutureReturns (future : FutureState ε α)
  | ensureFutureRaises (exception : ε)
  | setRunning
  | taskEnds (ended : FutureState ε α)
  | runReturns
  | runRaises (exception : ε)
  | setJoin
  | returns
deriving DecidableEq, Repr

/-- `stage.set_value(value)`, which takes the thread to its next place. -/
def State.setStage (state : State ε α) (value : Stage) (place : Place) : State ε α :=
  { state with stage := state.stage.setValue differs value, place }

/-- `FutureState.absorb_lambda()` around the end of `asyncio.run()`. -/
def State.absorb (state : State ε α) (result : FutureState ε α) : State ε α :=
  { state with place := .absorbed, result := some result }

/-- One step of the thread. The first call of `stage.set_value()` is in the loop before anything
that ends `asyncio.run()`, unless `ensure_future()` raises.
-/
def threadStep (state : State ε α) : ThreadEvent ε α → Option (State ε α)
  | .ensureFuture =>
      if state.place = .starting then
        some { state with place := .created, task := some .pending, attached := true }
      else
        none
  | .ensureFutureReturns future =>
      if state.place = .starting then
        some { state with place := .created, task := some future, attached := future.done }
      else
        none
  | .ensureFutureRaises exception =>
      if state.place = .starting then some (state.absorb (.exception exception)) else none
  | .setRunning =>
      if state.place = .created then some (state.setStage .running .running) else none
  | .taskEnds ended =>
      match state.task with
      | some .pending => if ended.done then some { state with task := some ended } else none
      | some .cancelled | some (.exception _) | some (.success _) | none => none
  | .runReturns =>
      match state.task with
      | some task =>
          if state.place = .running && state.attached && task.done then some (state.absorb task)
          else none
      | none => none
  | .runRaises exception =>
      if state.place = .running && !state.attached then
        some (state.absorb (.exception exception))
      else
        none
  | .setJoin => if state.place = .absorbed then some (state.setStage .join .joined) else none
  | .returns =>
      if state.place = .joined then some { state with place := .finished } else none

/-- A step of the launching thread, or of a loop, on `stage`. -/
def State.onStage (state : State ε α) (event : ThreadsafeState.Event Unit Stage)
    : Option (State ε α) :=
  (ThreadsafeState.step differs state.stage event).map (fun stage => { state with stage })

-----------------------------------------------------------------------------------------
-- The stage
-----------------------------------------------------------------------------------------

/-- The last change of the stage is done. -/
def Place.Joined : Place → Prop
  | joined | finished => True
  | starting | created | running | absorbed => False

/-- The value of the stage fits the place of the thread. -/
def Place.Shows : Place → Stage → Prop
  | starting, value | created, value => value = .preparing
  | running, value => value = .running
  | absorbed, value => value ≠ .join
  | joined, value | finished, value => value = .join

theorem Place.Shows.joined_iff {place : Place} {value : Stage} (shows : place.Shows value)
    : place.Joined ↔ value = .join := by
  cases place <;> simp_all [Place.Shows, Place.Joined]

@[simp] theorem value_setValue (stage : ThreadsafeState.State Unit Stage) (value : Stage)
    : (stage.setValue differs value).value = value := by
  by_cases same : stage.value = value <;>
    simp [ThreadsafeState.State.setValue, ThreadsafeState.State.updateValue, differs, same]

/-- A new value wakes the client up, or leaves it where it is. -/
theorem clients_setValue (stage : ThreadsafeState.State Unit Stage) (value : Stage)
    : (stage.setValue differs value).clients ()
      = if stage.value = value then stage.clients () else (stage.clients ()).notify := by
  by_cases same : stage.value = value <;>
    simp [ThreadsafeState.State.setValue, ThreadsafeState.State.updateValue, differs, same]

variable {state next : State ε α} {event : ThreadEvent ε α}

/-- The steps of the thread, one constructor for each. -/
inductive ThreadMove (state : State ε α) : ThreadEvent ε α → State ε α → Prop where
  | wraps (here : state.place = .starting)
    : ThreadMove state .ensureFuture
        { state with place := .created, task := some .pending, attached := true }
  | hands {future : FutureState ε α} (here : state.place = .starting)
    : ThreadMove state (.ensureFutureReturns future)
        { state with place := .created, task := some future, attached := future.done }
  | refuses {exception : ε} (here : state.place = .starting)
    : ThreadMove state (.ensureFutureRaises exception) (state.absorb (.exception exception))
  | setsRunning (here : state.place = .created)
    : ThreadMove state .setRunning (state.setStage .running .running)
  | ends {ended : FutureState ε α} (own : state.task = some .pending) (done : ended.done = true)
    : ThreadMove state (.taskEnds ended) { state with task := some ended }
  | runs {task : FutureState ε α} (here : state.place = .running) (own : state.task = some task)
    (done : task.done = true)
    : ThreadMove state .runReturns (state.absorb task)
  | raises {exception : ε} (here : state.place = .running) (detached : state.attached = false)
    : ThreadMove state (.runRaises exception) (state.absorb (.exception exception))
  | setsJoin (here : state.place = .absorbed)
    : ThreadMove state .setJoin (state.setStage .join .joined)
  | finishes (here : state.place = .joined)
    : ThreadMove state .returns { state with place := .finished }

theorem threadMove_of_step (stepped : threadStep state event = some next)
    : ThreadMove state event next := by
  cases event with
  | ensureFuture =>
      simp only [threadStep, Option.ite_none_right_eq_some] at stepped
      exact Option.some.inj stepped.2 ▸ .wraps stepped.1
  | ensureFutureReturns future =>
      simp only [threadStep, Option.ite_none_right_eq_some] at stepped
      exact Option.some.inj stepped.2 ▸ .hands stepped.1
  | ensureFutureRaises exception =>
      simp only [threadStep, Option.ite_none_right_eq_some] at stepped
      exact Option.some.inj stepped.2 ▸ .refuses stepped.1
  | setRunning =>
      simp only [threadStep, Option.ite_none_right_eq_some] at stepped
      exact Option.some.inj stepped.2 ▸ .setsRunning stepped.1
  | taskEnds ended =>
      simp only [threadStep] at stepped
      split at stepped
      case h_1 own =>
          simp only [Option.ite_none_right_eq_some] at stepped
          exact Option.some.inj stepped.2 ▸ .ends own stepped.1
      all_goals contradiction
  | runReturns =>
      simp only [threadStep] at stepped
      split at stepped
      case h_1 own =>
          simp only [Option.ite_none_right_eq_some, Bool.and_eq_true, decide_eq_true_eq]
            at stepped
          obtain ⟨⟨⟨here, _⟩, done⟩, same⟩ := stepped
          exact Option.some.inj same ▸ .runs here own done
      case h_2 => contradiction
  | runRaises exception =>
      simp only [threadStep, Option.ite_none_right_eq_some, Bool.and_eq_true,
        decide_eq_true_eq, Bool.not_eq_true'] at stepped
      exact Option.some.inj stepped.2 ▸ .raises stepped.1.1 stepped.1.2
  | setJoin =>
      simp only [threadStep, Option.ite_none_right_eq_some] at stepped
      exact Option.some.inj stepped.2 ▸ .setsJoin stepped.1
  | returns =>
      simp only [threadStep, Option.ite_none_right_eq_some] at stepped
      exact Option.some.inj stepped.2 ▸ .finishes stepped.1

/-- Every step of the thread lets the stage show where it is. -/
theorem shows_threadStep (shows : state.place.Shows state.stage.value)
    (stepped : threadStep state event = some next)
    : next.place.Shows next.stage.value := by
  cases threadMove_of_step stepped with
  | wraps here | hands here | finishes here => simpa [here, Place.Shows] using shows
  | refuses here | raises here | runs here =>
      simp only [here, Place.Shows] at shows
      simp [State.absorb, Place.Shows, shows]
  | setsRunning | setsJoin => exact value_setValue _ _
  | ends => exact shows

/-- What the thread does to the stage and to its client: nothing, or it sets another value and
wakes the client up.
-/
theorem stage_threadStep (stepped : threadStep state event = some next)
    : next.stage = state.stage ∧ (next.place.Joined ↔ state.place.Joined)
      ∨ ∃ value,
          next.stage = state.stage.setValue differs value
          ∧ ¬state.place.Joined
          ∧ (next.place.Joined → value = .join) := by
  cases threadMove_of_step stepped with
  | wraps here | hands here | finishes here | refuses here | raises here | runs here =>
      exact .inl ⟨rfl, by simp [here, State.absorb, Place.Joined]⟩
  | ends => exact .inl ⟨rfl, Iff.rfl⟩
  | setsRunning here =>
      exact .inr ⟨_, rfl, by simp [here, Place.Joined], by simp [State.setStage, Place.Joined]⟩
  | setsJoin here => exact .inr ⟨_, rfl, by simp [here, Place.Joined], fun _ => rfl⟩

-----------------------------------------------------------------------------------------
-- The task and its result
-----------------------------------------------------------------------------------------

/-- `ensure_future()` does not raise, and returns no future that `await` would raise on. -/
def ThreadEvent.Wrapped : ThreadEvent ε α → Prop
  | .ensureFutureReturns future => future.done = true
  | .ensureFutureRaises _ => False
  | .ensureFuture | .setRunning | .taskEnds _ | .runReturns | .runRaises _ | .setJoin
  | .returns => True

/-- `asyncio.run()` has ended. -/
def Place.Absorbed : Place → Bool
  | starting | created | running => false
  | absorbed | joined | finished => true

/-- The thread awaits a task that it can, and `result` has what that ended with. -/
structure Awaits (state : State ε α) : Prop where
  created : state.place ≠ .starting → state.attached = true ∧ state.task.isSome = true
  absorbed
    : state.place.Absorbed = true
      → ∃ task, state.task = some task ∧ task.done = true ∧ state.result = some task

theorem awaits_initial : Awaits (.initial : State ε α) :=
  ⟨fun started => (started rfl).elim, fun absorbed => (Bool.false_ne_true absorbed).elim⟩

theorem Awaits.withStage (awaits : Awaits state) (stage : ThreadsafeState.State Unit Stage)
    : Awaits { state with stage } :=
  ⟨awaits.created, awaits.absorbed⟩

/-- Every step of the thread keeps its task, by cases on the moves. -/
theorem Awaits.threadStep (awaits : Awaits state) (wrapped : event.Wrapped)
    (stepped : ThreadLoop.threadStep state event = some next)
    : Awaits next := by
  have created := awaits.created
  cases threadMove_of_step stepped with
  | wraps => exact ⟨fun _ => ⟨rfl, rfl⟩, fun absorbed => (Bool.false_ne_true absorbed).elim⟩
  | hands => exact ⟨fun _ => ⟨wrapped, rfl⟩, fun absorbed => (Bool.false_ne_true absorbed).elim⟩
  | refuses => exact wrapped.elim
  | setsRunning here =>
      exact ⟨fun _ => created (by simp [here]),
        fun absorbed => (Bool.false_ne_true absorbed).elim⟩
  | ends own =>
      refine ⟨fun started => ⟨(created started).1, rfl⟩, fun absorbed => ?_⟩
      obtain ⟨task, same, done, _⟩ := awaits.absorbed absorbed
      rw [Option.some.inj (same.symm.trans own)] at done
      contradiction
  | @runs task here own done =>
      exact ⟨fun _ => created (by simp [here]), fun _ => ⟨task, own, done, rfl⟩⟩
  | raises here detached => simp [(created (by simp [here])).1] at detached
  | setsJoin here | finishes here =>
      exact ⟨fun _ => created (by simp [here]),
        fun _ => awaits.absorbed (by simp [here, Place.Absorbed])⟩

end Aiodrive.ThreadLoop
