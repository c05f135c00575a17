import Aiodrive.Multiprocessing.Replies

/-! `__aexit__()` of `MultiprocessingProcess`: the callbacks of its `AsyncExitStack` run last in,
first out, so `_loop()` is cancelled before the child is shut down, and the futures that it
still expects replies for are not done then or ever.
-/

namespace Aiodrive.MultiprocessingProcess

variable {ε α : Type*} {state next : State ε α}

/-- The event takes a `spawn()` past the `drain()` of its `CreateTaskMessage`. -/
def Registers (state : State ε α) : Event ε α → Prop
  | .call suspends => suspends = false
  | .drained taskId => state.spawns taskId = .draining
  | .callRaises | .drainRaises _ | .cancel _ | .resume _ _ | .receive .. | .endOfStream _
  | .recvRaises => False

instance : ∀ event, Decidable (Registers state event)
  | .call suspends => inferInstanceAs (Decidable (suspends = false))
  | .drained taskId => inferInstanceAs (Decidable (state.spawns taskId = .draining))
  | .callRaises | .drainRaises _ | .cancel _ | .resume _ _ | .receive .. | .endOfStream _
  | .recvRaises =>
      .isFalse id

/-- A `spawn()` past its `drain()` has registered a new future that is pending. -/
theorem registered_of_registers {event : Event ε α} (registers : Registers state event)
    (stepped : step state event = some next)
    : ∃ taskId, (next.spawns taskId).Registered ∧ next.futures taskId = .pending := by
  cases event with
  | call suspends =>
      obtain rfl : suspends = false := registers
      obtain rfl := Option.some.inj stepped
      exact ⟨state.nextTaskId, by simp [State.call, Spawn.Registered], by simp [State.call]⟩
  | drained taskId =>
      have place : state.spawns taskId = .draining := registers
      simp only [step, place, Option.some.injEq] at stepped
      subst stepped
      exact ⟨taskId, by simp [Spawn.Registered], by simp⟩
  | callRaises | drainRaises | cancel | resume | receive | endOfStream | recvRaises =>
      exact registers.elim

/-- Any other step of a `spawn()` leaves `_tasks` as it is. -/
theorem tasks_of_not_registers {event : Event ε α} (own : ¬event.OfLoop)
    (quiet : ¬Registers state event) (stepped : step state event = some next)
    : next.tasks = state.tasks := by
  cases event with
  | call suspends =>
      cases suspends with
      | true => exact Option.some.inj stepped ▸ rfl
      | false => exact (quiet rfl).elim
  | callRaises => exact Option.some.inj stepped ▸ rfl
  | drained taskId =>
      simp only [step] at stepped
      split at stepped
      case h_1 place => exact (quiet place).elim
      case h_2 =>
          obtain rfl := Option.some.inj stepped
          unfold State.awaitAgain
          split <;> rfl
      all_goals contradiction
  | drainRaises taskId | cancel taskId =>
      simp only [step] at stepped
      split at stepped <;> first | contradiction | exact Option.some.inj stepped ▸ rfl
  | resume taskId suspends =>
      simp only [step] at stepped
      split at stepped
      case h_1 =>
          obtain rfl := Option.some.inj stepped
          unfold State.interrupt
          split_ifs <;> rfl
      case h_2 =>
          split_ifs at stepped
          exact Option.some.inj stepped ▸ rfl
      all_goals contradiction
  | receive | endOfStream | recvRaises => exact (own trivial).elim

/-- It leaves the registered futures as they are too. -/
theorem Sound.kept_of_not_registers (sound : Sound state) {event : Event ε α}
    (own : ¬event.OfLoop) (quiet : ¬Registers state event)
    (stepped : MultiprocessingProcess.step state event = some next)
    : (∀ taskId, (next.spawns taskId).Registered ↔ (state.spawns taskId).Registered)
      ∧ next.futures = state.futures
      ∧ next.replied = state.replied
      ∧ next.loop = state.loop := by
  have tasks := tasks_of_not_registers own quiet stepped
  cases sound.move_of_step stepped with
  | @moves _ _ taskId _ _ _ _ same =>
      refine ⟨fun other => ?_, rfl, rfl, rfl⟩
      rw [State.spawns_setSpawn]
      split
      case isTrue here => exact here ▸ same
      case isFalse => rfl
  | registers =>
      have longer := congrArg List.length tasks
      simp at longer
  | receives | ends | fails => exact (own trivial).elim

/-- At the end of the stream every future left gets the exception, by induction on them. -/
theorem futures_endOfStream (error : ε) {tasks : List Nat} (nodup : tasks.Nodup)
    (pending : ∀ taskId ∈ tasks, state.futures taskId = .pending) (other : Nat)
    : (state.endOfStream error tasks).futures other
      = if other ∈ tasks then .exception error else state.futures other := by
  induction tasks generalizing state with
  | nil => rfl
  | cons taskId rest ih =>
      have first := pending taskId List.mem_cons_self
      have fresh : taskId ∉ rest := (List.nodup_cons.mp nodup).1
      simp only [State.endOfStream, first, FutureState.done_pending, Bool.false_eq_true,
        if_false]
      rw [ih nodup.of_cons (pending_update nodup pending (.exception error))]
      by_cases here : other = taskId
      · simp [here, fresh]
      · simp [here]

end Aiodrive.MultiprocessingProcess

namespace Aiodrive.ProcessExit

open MultiprocessingProcess (Expecting Registers)

variable {ε α : Type*}

/-- The callbacks of `_stack`: the exit of `contextualize(self._loop())`, and
`close_callback()`.
-/
inductive Callback where
  | contextualize
  | closeCallback
deriving DecidableEq, Repr

/-- `push_async_callback()` and `enter_async_context()` of a stack, its last callback first. -/
def push (stack : List Callback) (callback : Callback) : List Callback := callback :: stack

/-- The stack after `__aenter__()`. -/
def aenter : List Callback :=
  let stack := push [] .closeCallback
  push stack .contextualize

/-- Where `__aexit__()` is: not called, in a callback with the others left, or at its end. -/
inductive Exit where
  | entered (stack : List Callback)
  | within (callback : Callback) (stack : List Callback)
  | completed
deriving DecidableEq, Repr

/-- `cancelRequested` tells that `_loop()` was asked to cancel, and `loopCancelled` that it ended
so.
-/
structure State (ε α : Type*) where
  process : MultiprocessingProcess.State ε α
  cancelRequested : Bool
  loopCancelled : Bool
  exit : Exit

def State.initial : State ε α :=
  { process := .initial, cancelRequested := false, loopCancelled := false,
    exit := .entered aenter }

/-- Something happens to a `spawn()` or to `_loop()`; `__aexit__()` is called; `CancelledError` is
thrown into `_loop()`; the `cancel_task()` of `contextualize()` resumes; or `close_callback()`
ends, whether it raises or not.
-/
inductive Event (ε α : Type*) where
  | process (event : MultiprocessingProcess.Event ε α)
  | aexit
  | loopCancelled
  | resumes
  | closes
deriving DecidableEq, Repr

/-- `done()` of the task of `_loop()`. -/
def State.loopDone (state : State ε α) : Bool :=
  state.loopCancelled || state.process.loop ≠ .running

/-- The exit stack from one callback to where the next one suspends. `contextualize()` does not
suspend where its task is done, and `close_callback()` waits for the process.
-/
def State.unwind (state : State ε α) : List Callback → State ε α
  | [] => { state with exit := .completed }
  | .contextualize :: stack =>
      if state.loopDone then state.unwind stack
      else { state with cancelRequested := true, exit := .within .contextualize stack }
  | .closeCallback :: stack => { state with exit := .within .closeCallback stack }

/-- `_loop()` receives nothing once it is asked to cancel. `FutureState.absorb_awaitable()`
replies with a state that is done.
-/
def State.Admits (state : State ε α) : MultiprocessingProcess.Event ε α → Bool
  | .receive _ message => !state.cancelRequested && message.done
  | .endOfStream _ | .recvRaises => !state.cancelRequested
  | .call _ | .callRaises | .drained _ | .drainRaises _ | .cancel _ | .resume _ _ => true

def step (state : State ε α) : Event ε α → Option (State ε α)
  | .process event =>
      if state.Admits event then
        (MultiprocessingProcess.step state.process event).map
          (fun process => { state with process })
      else
        none
  | .aexit =>
      match state.exit with
      | .entered stack => some (state.unwind stack)
      | .within _ _ | .completed => none
  | .loopCancelled =>
      if state.cancelRequested && !state.loopDone then some { state with loopCancelled := true }
      else none
  | .resumes =>
      match state.exit with
      | .within .contextualize stack =>
          if state.loopDone then some (state.unwind stack) else none
      | .within .closeCallback _ | .entered _ | .completed => none
  | .closes =>
      match state.exit with
      | .within .closeCallback stack => some (state.unwind stack)
      | .within .contextualize _ | .entered _ | .completed => none

variable {state next final : State ε α} {events : List (Event ε α)}

/-- Every future that was registered in `_tasks` is done. -/
def State.FuturesDone (state : State ε α) : Prop :=
  ∀ taskId,
    (state.process.spawns taskId).Registered → (state.process.futures taskId).done = true

/-- No future is left in `_tasks` when `_loop()` is cancelled, meets a reply it knows no task
for, or ends by what `recv()` raises, and none is registered after `_loop()` has ended.
-/
def Served (state : State ε α) : Event ε α → Prop
  | .process (.receive taskId _) =>
      taskId ∉ state.process.tasks → state.process.tasks = []
  | .process .recvRaises => state.process.tasks = []
  | .process event => Registers state.process event → state.loopDone = false
  | .loopCancelled => state.process.tasks = []
  | .aexit | .resumes | .closes => True

instance : ∀ event, Decidable (Served state event)
  | .process (.receive taskId _) =>
      inferInstanceAs (Decidable (taskId ∉ state.process.tasks → state.process.tasks = []))
  | .process (.call suspends) =>
      inferInstanceAs (Decidable (Registers state.process (.call suspends) → _))
  | .process (.drained taskId) =>
      inferInstanceAs (Decidable (Registers state.process (.drained taskId) → _))
  | .process .callRaises | .process (.drainRaises _) | .process (.cancel _)
  | .process (.resume _ _) | .process (.endOfStream _) => .isTrue False.elim
  | .process .recvRaises | .loopCancelled =>
      inferInstanceAs (Decidable (state.process.tasks = []))
  | .aexit | .resumes | .closes => .isTrue trivial

-----------------------------------------------------------------------------------------
-- What is left of the exit stack
-----------------------------------------------------------------------------------------

/-- The callbacks that have not ended. -/
def Exit.remaining : Exit → List Callback
  | entered stack => stack
  | within callback stack => callback :: stack
  | completed => []

section

variable (state : State ε α) (stack : List Callback)

@[simp] theorem process_unwind : (state.unwind stack).process = state.process := by
  fun_induction State.unwind state stack <;> simp_all

@[simp] theorem loopCancelled_unwind
    : (state.unwind stack).loopCancelled = state.loopCancelled := by
  fun_induction State.unwind state stack <;> simp_all

@[simp] theorem loopDone_unwind : (state.unwind stack).loopDone = state.loopDone := by
  simp [State.loopDone]

@[simp] theorem futuresDone_unwind
    : (state.unwind stack).FuturesDone ↔ state.FuturesDone := by
  simp [State.FuturesDone]

theorem requested_unwind (requested : state.cancelRequested = true)
    : (state.unwind stack).cancelRequested = true := by
  fun_induction State.unwind state stack <;> simp_all

/-- The stack is unwound past `contextualize()` only when `_loop()` is done. -/
theorem loopDone_or_mem_unwind (left : state.loopDone = true ∨ .contextualize ∈ stack)
    : state.loopDone = true ∨ .contextualize ∈ (state.unwind stack).exit.remaining := by
  induction stack with
  | nil => exact left
  | cons callback stack ih =>
      cases callback with
      | contextualize =>
          unfold State.unwind
          split
          case isTrue done => exact .inl done
          case isFalse => exact .inr List.mem_cons_self
      | closeCallback => exact left

end

-----------------------------------------------------------------------------------------
-- The invariant
-----------------------------------------------------------------------------------------

/-- Until `_loop()` is done, the futures of the replies received are, and the stack has its
callback.
-/
structure Sound (state : State ε α) : Prop where
  process : MultiprocessingProcess.Sound state.process
  replied
    : state.process.loop = .running
      → ∀ taskId, state.process.replied taskId = true → (state.process.futures taskId).done = true
  requested : state.loopCancelled = true → state.cancelRequested = true
  contextualized : state.loopDone = true ∨ .contextualize ∈ state.exit.remaining

theorem sound_initial : Sound (.initial : State ε α) :=
  {
    process := MultiprocessingProcess.sound_initial
    replied := fun _ _ replied => (Bool.false_ne_true replied).elim
    requested := fun cancelled => (Bool.false_ne_true cancelled).elim
    contextualized := .inr List.mem_cons_self
  }

/-- The steps: a `spawn()` moves on; `_loop()` receives something, or is cancelled; or the stack is
unwound.
-/
inductive Move (state : State ε α) : Event ε α → State ε α → Prop where
  | spawns {event : MultiprocessingProcess.Event ε α}
    {process : MultiprocessingProcess.State ε α} (own : ¬event.OfLoop)
    (stepped : MultiprocessingProcess.step state.process event = some process)
    : Move state (.process event) { state with process }
  | receives {taskId : Nat} {message : FutureState ε α}
    (running : state.process.loop = .running) (unasked : state.loopCancelled = false)
    (done : message.done = true)
    : Move state (.process (.receive taskId message))
        { state with process := state.process.receive taskId message }
  | ends {error : ε} (running : state.process.loop = .running)
    (unasked : state.loopCancelled = false)
    : Move state (.process (.endOfStream error))
        { state with process := state.process.endOfStream error state.process.tasks }
  | fails (running : state.process.loop = .running) (unasked : state.loopCancelled = false)
    : Move state (.process .recvRaises)
        { state with process := { state.process with loop := .recvError } }
  | cancels (requested : state.cancelRequested = true) (running : state.process.loop = .running)
    (unasked : state.loopCancelled = false)
    : Move state .loopCancelled { state with loopCancelled := true }
  | unwinds {event : Event ε α} {stack : List Callback} (served : Served state event)
    (left : state.loopDone = true ∨ .contextualize ∈ stack)
    : Move state event (state.unwind stack)

theorem loopDone_eq_false_iff
    : state.loopDone = false ↔ state.loopCancelled = false ∧ state.process.loop = .running := by
  simp [State.loopDone]

theorem Sound.move_of_step (sound : Sound state) {event : Event ε α}
    (stepped : step state event = some next)
    : Move state event next := by
  have unasked (notRequested : state.cancelRequested = false) : state.loopCancelled = false := by
    by_contra cancelled
    have requested := sound.requested (by simpa using cancelled)
    simp [notRequested] at requested
  have contextualized := sound.contextualized
  cases event with
  | process event =>
      simp only [step, Option.ite_none_right_eq_some, Option.map_eq_some_iff] at stepped
      obtain ⟨admitted, process, moved, rfl⟩ := stepped
      by_cases own : event.OfLoop
      · cases sound.process.move_of_step moved with
        | moves notOfLoop | registers notOfLoop => exact (notOfLoop own).elim
        | receives running =>
            simp only [State.Admits, Bool.and_eq_true, Bool.not_eq_true'] at admitted
            exact .receives running (unasked admitted.1) admitted.2
        | ends running => exact .ends running (unasked (by simpa [State.Admits] using admitted))
        | fails running => exact .fails running (unasked (by simpa [State.Admits] using admitted))
      · exact .spawns own moved
  | aexit =>
      simp only [step] at stepped
      split at stepped
      case h_1 here =>
          rw [here] at contextualized
          exact Option.some.inj stepped ▸ .unwinds trivial contextualized
      all_goals contradiction
  | loopCancelled =>
      simp only [step, Option.ite_none_right_eq_some, Bool.and_eq_true, Bool.not_eq_true',
        loopDone_eq_false_iff] at stepped
      obtain ⟨⟨requested, active⟩, same⟩ := stepped
      exact Option.some.inj same ▸ .cancels requested active.2 active.1
  | resumes =>
      simp only [step] at stepped
      split at stepped
      case h_1 =>
          split_ifs at stepped with done
          exact Option.some.inj stepped ▸ .unwinds trivial (.inl done)
      all_goals contradiction
  | closes =>
      simp only [step] at stepped
      split at stepped
      case h_1 here =>
          rw [here] at contextualized
          simp only [Exit.remaining, List.mem_cons, reduceCtorEq, false_or] at contextualized
          exact Option.some.inj stepped ▸ .unwinds trivial contextualized
      all_goals contradiction

/-- `_loop()` runs on through what happens to a `spawn()`. -/
theorem Sound.loop_of_spawns (sound : Sound state) {event : MultiprocessingProcess.Event ε α}
    {process : MultiprocessingProcess.State ε α} (own : ¬event.OfLoop)
    (stepped : MultiprocessingProcess.step state.process event = some process)
    : process.loop = state.process.loop := by
  cases sound.process.move_of_step stepped with
  | moves | registers => rfl
  | receives | ends | fails => exact (own trivial).elim

/-- What happens to a `spawn()` keeps the replies received. -/
theorem Sound.replied_of_spawns (sound : Sound state) {event : MultiprocessingProcess.Event ε α}
    {process : MultiprocessingProcess.State ε α} (own : ¬event.OfLoop)
    (stepped : MultiprocessingProcess.step state.process event = some process)
    (running : process.loop = .running)
    : ∀ taskId, process.replied taskId = true → (process.futures taskId).done = true := by
  cases sound.process.move_of_step stepped with
  | moves => exact sound.replied running
  | @registers _ _ taskId _ _ _ fresh =>
      intro other replied
      have before := (sound.process.expecting running).replied other replied
      have different : other ≠ taskId := fun same => fresh (same ▸ before)
      simpa [different] using sound.replied running other replied
  | receives | ends | fails => exact (own trivial).elim

/-- A reply whose future is not found leaves everything but `_loop()` as it is. -/
theorem receive_of_not_mem {process : MultiprocessingProcess.State ε α} {taskId : Nat}
    {message : FutureState ε α} (unknown : taskId ∉ process.tasks)
    : process.receive taskId message
      = { process with
          replied := Function.update process.replied taskId true
          loop := .keyError } := by
  simp [MultiprocessingProcess.State.receive, unknown]

theorem Sound.replied_of_receives (sound : Sound state) {taskId : Nat}
    {message : FutureState ε α} (running : state.process.loop = .running)
    (done : message.done = true)
    (goesOn : (state.process.receive taskId message).loop = .running)
    : ∀ other,
        (state.process.receive taskId message).replied other = true
        → ((state.process.receive taskId message).futures other).done = true := by
  by_cases listed : taskId ∈ state.process.tasks
  · have pending := (sound.process.expecting running).pending taskId listed
    rw [MultiprocessingProcess.receive_of_known listed pending]
    intro other replied
    by_cases here : other = taskId
    · simpa [here] using done
    · simpa [here] using sound.replied running other (by simpa [here] using replied)
  · simp [receive_of_not_mem listed] at goesOn

theorem Sound.step (sound : Sound state) {event : Event ε α}
    (stepped : ProcessExit.step state event = some next)
    : Sound next := by
  have contextualized := sound.contextualized
  cases sound.move_of_step stepped with
  | @spawns _ process own moved =>
      have loop := sound.loop_of_spawns own moved
      exact {
        process := sound.process.step moved
        replied := sound.replied_of_spawns own moved
        requested := sound.requested
        contextualized := by simpa only [State.loopDone, loop] using contextualized
      }
  | receives running unasked done =>
      exact {
        process := sound.process.receive running
        replied := sound.replied_of_receives running done
        requested := sound.requested
        contextualized := by
          have active := loopDone_eq_false_iff.mpr ⟨unasked, running⟩
          exact .inr (contextualized.resolve_left (by simp [active]))
      }
  | @ends error running unasked =>
      have closed := sound.process.loop_endOfStream running error
      exact {
        process := sound.process.endOfStream running error
        replied := fun goesOn => by simp [closed] at goesOn
        requested := sound.requested
        contextualized := .inl (by simp [State.loopDone, closed])
      }
  | fails running unasked =>
      exact {
        process := ⟨sound.process.unused, fun goesOn => by simp at goesOn⟩
        replied := fun goesOn => by simp at goesOn
        requested := sound.requested
        contextualized := .inl (by simp [State.loopDone])
      }
  | cancels requested running unasked =>
      exact {
        process := sound.process
        replied := sound.replied
        requested := fun _ => requested
        contextualized := .inl rfl
      }
  | @unwinds _ stack served left =>
      exact {
        process := by simpa using sound.process
        replied := by simpa using sound.replied
        requested := fun cancelled =>
          requested_unwind state stack (sound.requested (by simpa using cancelled))
        contextualized := by simpa using loopDone_or_mem_unwind state stack left
      }

-----------------------------------------------------------------------------------------
-- Which futures are done
-----------------------------------------------------------------------------------------

/-- While `_loop()` runs, the registered futures are done except for those in `_tasks`. -/
theorem Sound.futuresDone_iff (sound : Sound state) (running : state.process.loop = .running)
    : state.FuturesDone ↔ state.process.tasks = [] := by
  have expecting := sound.process.expecting running
  constructor
  · intro futuresDone
    refine List.eq_nil_iff_forall_not_mem.mpr (fun taskId listed => ?_)
    have done := futuresDone taskId ((expecting.tasks taskId).mp listed).1
    simp [expecting.pending taskId listed] at done
  · intro none taskId registered
    apply sound.replied running
    by_contra unreplied
    have listed := (expecting.tasks taskId).mpr ⟨registered, by simpa using unreplied⟩
    simp [none] at listed

/-- At the end of the stream no registered future is left pending. -/
theorem Sound.futuresDone_ends (sound : Sound state) (running : state.process.loop = .running)
    (error : ε)
    : State.FuturesDone
        { state with process := state.process.endOfStream error state.process.tasks } := by
  intro taskId registered
  have expecting := sound.process.expecting running
  simp only [(MultiprocessingProcess.spawns_endOfStream ..).1] at registered
  simp only [MultiprocessingProcess.futures_endOfStream error expecting.nodup expecting.pending]
  split
  case isTrue => rfl
  case isFalse absent =>
    apply sound.replied running
    by_contra unreplied
    exact absent ((expecting.tasks taskId).mpr ⟨registered, by simpa using unreplied⟩)

theorem served_process_iff {event : MultiprocessingProcess.Event ε α} (own : ¬event.OfLoop)
    : Served state (.process event)
      ↔ (Registers state.process event → state.loopDone = false) := by
  cases event with
  | receive | endOfStream | recvRaises => exact (own trivial).elim
  | call | callRaises | drained | drainRaises | cancel | resume => rfl

/-- `_loop()` has ended, and some registered future is not done. -/
def State.Stranded (state : State ε α) : Prop := state.loopDone = true ∧ ¬state.FuturesDone

/-- A future that a `spawn()` registers after `_loop()` has ended is stranded. -/
theorem Sound.stranded_of_spawns (sound : Sound state)
    {event : MultiprocessingProcess.Event ε α} {process : MultiprocessingProcess.State ε α}
    (own : ¬event.OfLoop)
    (stepped : MultiprocessingProcess.step state.process event = some process)
    : State.Stranded { state with process } ↔ state.Stranded ∨ ¬Served state (.process event) := by
  have loopDone : State.loopDone { state with process } = state.loopDone := by
    simp only [State.loopDone, sound.loop_of_spawns own stepped]
  rw [served_process_iff own]
  simp only [State.Stranded, loopDone]
  by_cases registers : Registers state.process event
  · obtain ⟨taskId, registered, pending⟩ :=
      MultiprocessingProcess.registered_of_registers registers stepped
    have left : ¬State.FuturesDone { state with process } :=
      fun futuresDone => by simpa [pending] using futuresDone taskId registered
    cases done : state.loopDone with
    | true => simp [registers, left]
    | false => simp
  · obtain ⟨registered, futures, _⟩ := sound.process.kept_of_not_registers own registers stepped
    simp [registers, State.FuturesDone, registered, futures]

/-- A reply strands the futures left if its own is not found. -/
theorem Sound.stranded_of_receives (sound : Sound state) {taskId : Nat}
    {message : FutureState ε α} (running : state.process.loop = .running)
    (unasked : state.loopCancelled = false)
    : State.Stranded { state with process := state.process.receive taskId message }
      ↔ state.Stranded ∨ ¬Served state (.process (.receive taskId message)) := by
  have active : state.loopDone = false := loopDone_eq_false_iff.mpr ⟨unasked, running⟩
  by_cases listed : taskId ∈ state.process.tasks
  · have pending := (sound.process.expecting running).pending taskId listed
    rw [MultiprocessingProcess.receive_of_known listed pending]
    simp [State.Stranded, State.loopDone, Served, unasked, running, listed]
  · rw [receive_of_not_mem listed]
    have left := not_congr (sound.futuresDone_iff running)
    simpa [State.Stranded, State.loopDone, Served, unasked, running, listed, State.FuturesDone]
      using left

/-- A future is stranded by exactly the steps that are not served. -/
theorem Sound.stranded_step_iff (sound : Sound state) {event : Event ε α}
    (stepped : ProcessExit.step state event = some next)
    : next.Stranded ↔ state.Stranded ∨ ¬Served state event := by
  cases sound.move_of_step stepped with
  | spawns own moved => exact sound.stranded_of_spawns own moved
  | receives running unasked => exact sound.stranded_of_receives running unasked
  | @ends error running unasked =>
      have active : state.loopDone = false := loopDone_eq_false_iff.mpr ⟨unasked, running⟩
      have served : Served state (.process (.endOfStream error)) := False.elim
      simp [State.Stranded, sound.futuresDone_ends running error, active, served]
  | fails running unasked =>
      have active : state.loopDone = false := loopDone_eq_false_iff.mpr ⟨unasked, running⟩
      have left := not_congr (sound.futuresDone_iff running)
      simpa [State.Stranded, State.loopDone, Served, unasked, running, State.FuturesDone] using left
  | cancels requested running unasked =>
      have active : state.loopDone = false := loopDone_eq_false_iff.mpr ⟨unasked, running⟩
      have left := not_congr (sound.futuresDone_iff running)
      simpa [State.Stranded, State.loopDone, Served, unasked, running, State.FuturesDone] using left
  | unwinds served left => simp [State.Stranded, served]

theorem sound_of_run (reached : Transition.run step .initial events = some final) : Sound final :=
  Transition.run_preserves (fun _ _ _ sound stepped => Sound.step sound stepped) sound_initial
    reached

/-- A stranded future stays so. -/
theorem Sound.stranded_run (sound : Sound state) (stranded : state.Stranded)
    (reached : Transition.run ProcessExit.step state events = some final)
    : final.Stranded := by
  have kept : Sound final ∧ final.Stranded := by
    refine Transition.run_preserves (P := fun state => Sound state ∧ state.Stranded) ?_
      ⟨sound, stranded⟩ reached
    intro state event next holds stepped
    exact ⟨holds.1.step stepped, (holds.1.stranded_step_iff stepped).mpr (.inl holds.2)⟩
  exact kept.2

/-- After `__aexit__()` has completed, every future that was registered is done if and only if no
future was left in `_tasks` when `_loop()` ended otherwise than at the end of the stream, and none
was registered later. The proof follows the step that strands a future.
-/
theorem futures_done_iff (reached : Transition.run step .initial events = some final)
    (completed : final.exit = .completed)
    : final.FuturesDone ↔ Transition.Meets step Served .initial events := by
  have loopDone : final.loopDone = true :=
    (sound_of_run reached).contextualized.resolve_right (by simp [completed, Exit.remaining])
  have stranded :=
    Transition.bad_iff_not_meets_of_good Served
      (fun _ _ _ _ sound stepped => Sound.step sound stepped)
      (fun _ _ _ _ sound stepped => Sound.stranded_step_iff sound stepped)
      sound_initial (fun stranded => Bool.false_ne_true stranded.1) reached
  rw [State.Stranded, and_iff_right loopDone] at stranded
  exact not_iff_not.mp stranded

/-- A task is replied to and another one gets the `ConnectionError` of a child that is gone, before
the exit.
-/
theorem futures_done_childGone
    : ∃ events, ∃ final : State String Unit,
        Transition.run step .initial events = some final
        ∧ final.exit = .completed
        ∧ final.FuturesDone
        ∧ final.process.futures 0 = .success ()
        ∧ final.process.futures 1 = .exception "Connection closed" := by
  have reached
      : Transition.run step (.initial : State String Unit)
          [.process (.call false), .process (.call true), .process (.drained 1),
            .process (.receive 0 (.success ())), .process (.endOfStream "Connection closed"),
            .aexit, .closes]
        = some _ :=
    rfl
  exact ⟨_, _, reached, rfl, (futures_done_iff reached rfl).mpr (by decide), rfl, rfl⟩

/-- A `spawn()` waits for its future when `__aexit__()` runs: `_loop()` is cancelled first, and
nobody sets the future when the child is shut down, or later.
-/
theorem spawn_stranded_by_exit
    : ∃ events, ∃ final : State String Unit,
        Transition.run step .initial events = some final
        ∧ final.exit = .completed
        ∧ final.process.spawns 0 = .awaiting false false
        ∧ final.process.futures 0 = .pending
        ∧ ∀ later after, Transition.run step final later = some after → ¬after.FuturesDone := by
  have reached
      : Transition.run step (.initial : State String Unit)
          [.process (.call false), .aexit, .loopCancelled, .resumes, .closes]
        = some _ :=
    rfl
  refine ⟨_, _, reached, rfl, rfl, rfl, fun later after onwards => ?_⟩
  have stranded := (sound_of_run reached).stranded_run
    ⟨rfl, fun futuresDone => Bool.false_ne_true (futuresDone 0 trivial)⟩ onwards
  exact stranded.2

end Aiodrive.ProcessExit
