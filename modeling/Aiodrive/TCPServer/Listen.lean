import Aiodrive.TCPServer.Model

/-! What `TCPServer.listen()` leaves behind: its connections, and its server. -/

namespace Aiodrive.TCPServer

variable {ε : Type*}

-----------------------------------------------------------------------------------------
-- What a step can do
-----------------------------------------------------------------------------------------

/-- The steps, one constructor for each branch. -/
inductive Move (state : State ε) : Event ε → State ε → Prop where
  | attaches (listens : state.listening = true)
    : Move state .attaches { state with attached := state.attached + 1 }
  | connects {group : TaskGroup.State (VolatileTaskGroup.Error ε)} (waits : state.attached ≠ 0)
    (created : VolatileTaskGroup.step state.group .creates = some group)
    : Move state .connects
        { state with
          attached := state.attached - 1
          group
          handlers := state.handlers ++ [if state.eager then .handling else .unstarted] }
  | refuses (waits : state.attached ≠ 0)
    : Move state .connects
        { state with attached := state.attached - 1, refused := state.refused + 1 }
  | starts {index : Nat} {child : TaskGroup.Child (VolatileTaskGroup.Error ε)}
    (here : state.handlers[index]? = some .unstarted)
    (task : state.group.children[index]? = some child) (unasked : child.asked = false)
    : Move state (.handlerStarts index)
        { state with handlers := state.handlers.set index .handling }
  /-- A task that is cancelled before its first step. -/
  | drops {index : Nat} {child : TaskGroup.Child (VolatileTaskGroup.Error ε)}
    {group : TaskGroup.State (VolatileTaskGroup.Error ε)}
    (here : state.handlers[index]? = some .unstarted)
    (task : state.group.children[index]? = some child) (asked : child.asked = true)
    (ended : VolatileTaskGroup.step state.group (.childEnds index .cancelled) = some group)
    : Move state (.handlerStarts index)
        { state with handlers := state.handlers.set index (.ended false), group }
  | handles {index : Nat} {result : FutureState ε Unit} {asked : Bool}
    (here : state.handlers[index]? = some .handling)
    : Move state (.handlerEnds index result)
        { state with handlers := state.handlers.set index (.closing result asked) }
  | closes {index : Nat} {result final : FutureState ε Unit} {asked : Bool} {error : Option ε}
    {group : TaskGroup.State (VolatileTaskGroup.Error ε)}
    (here : state.handlers[index]? = some (.closing result asked))
    (ended : VolatileTaskGroup.step state.group (.childEnds index final) = some group)
    : Move state (.writerCloses index error)
        { state with handlers := state.handlers.set index (.ended true), group }
  | notices {index : Nat} {group : TaskGroup.State (VolatileTaskGroup.Error ε)}
    (noticed : VolatileTaskGroup.step state.group (.childNoticed index) = some group)
    : Move state (.handlerNoticed index) { state with group }
  | cancels {group : TaskGroup.State (VolatileTaskGroup.Error ε)}
    (asked : VolatileTaskGroup.step state.group .cancels = some group)
    : Move state .cancels { state with group }
  | interruptsSuspend {interrupted : Bool} (here : state.stage = .suspending interrupted)
    : Move state .interrupts { state with stage := .suspending true }
  | interruptsGroup {group : TaskGroup.State (VolatileTaskGroup.Error ε)}
    (here : state.stage = .leaving)
    (interrupted : VolatileTaskGroup.step state.group .interrupts = some group)
    : Move state .interrupts { state with group }
  | interruptsClosing
    {raised : Option (ExceptionGroups.Thrown (Suppress.Error (VolatileTaskGroup.Error ε)))}
    {interrupts : Nat} (here : state.stage = .closing raised interrupts)
    : Move state .interrupts { state with stage := .closing raised (interrupts + 1) }
  | resumes (here : state.stage = .serving)
    : Move state .resumes { state with stage := .suspending false }
  | suspended {group : TaskGroup.State (VolatileTaskGroup.Error ε)}
    (here : state.stage = .suspending false)
    (left : VolatileTaskGroup.step state.group (.bodyEnds .returned) = some group)
    : Move state .goesOn (State.settle { state with listening := false, group })
  | interrupted {group : TaskGroup.State (VolatileTaskGroup.Error ε)}
    (here : state.stage = .suspending true)
    (left : VolatileTaskGroup.step state.group (.bodyEnds .cancelledError) = some group)
    : Move state .goesOn (State.settle { state with group })
  | leaves {group : TaskGroup.State (VolatileTaskGroup.Error ε)} (here : state.stage = .leaving)
    (resumed : VolatileTaskGroup.step state.group .resumes = some group)
    : Move state .goesOn (State.settle { state with group })
  | ends
    {raised : Option (ExceptionGroups.Thrown (Suppress.Error (VolatileTaskGroup.Error ε)))}
    {interrupts : Nat} (here : state.stage = .closing raised interrupts)
    (stops : state.stopsWaiting interrupts = true)
    : Move state .goesOn
        { state with
          stage := .ended (if interrupts = 0 then raised else some (.single .cancelledError)) }

theorem groupStep_eq_some {state next : State ε} {event : TaskGroup.Event ε}
    (stepped : state.groupStep event = some next)
    : ∃ group,
      VolatileTaskGroup.step state.group event = some group ∧ next = { state with group } := by
  obtain ⟨group, moved, rfl⟩ := Option.map_eq_some_iff.mp stepped
  exact ⟨group, moved, rfl⟩

theorem move_of_goOn {state next : State ε} (went : state.goOn = some next)
    : Move state .goesOn next := by
  unfold State.goOn at went
  split at went
  · rename_i here
    obtain ⟨middle, stepped, rfl⟩ := Option.map_eq_some_iff.mp went
    obtain ⟨group, left, rfl⟩ := groupStep_eq_some stepped
    exact .suspended here left
  · rename_i here
    obtain ⟨middle, stepped, rfl⟩ := Option.map_eq_some_iff.mp went
    obtain ⟨group, left, rfl⟩ := groupStep_eq_some stepped
    exact .interrupted here left
  · rename_i here
    obtain ⟨middle, stepped, rfl⟩ := Option.map_eq_some_iff.mp went
    obtain ⟨group, left, rfl⟩ := groupStep_eq_some stepped
    exact .leaves here left
  · rename_i here
    simp only [Option.ite_none_right_eq_some, Option.some.injEq] at went
    exact went.2 ▸ .ends here went.1
  all_goals contradiction

theorem move_of_step {state next : State ε} {event : Event ε}
    (stepped : step state event = some next)
    : Move state event next := by
  cases event with
  | attaches =>
      simp only [step, Option.ite_none_right_eq_some, Option.some.injEq] at stepped
      exact stepped.2 ▸ .attaches stepped.1
  | connects =>
      simp only [step, Option.ite_none_left_eq_some, Option.some.injEq] at stepped
      obtain ⟨waits, rfl⟩ := stepped
      unfold State.connect
      split
      · rename_i created
        exact .connects waits created
      · exact .refuses waits
  | handlerStarts index =>
      simp only [step] at stepped
      split at stepped
      · rename_i child here task
        split at stepped
        · rename_i asked
          obtain ⟨group, ended, rfl⟩ := groupStep_eq_some stepped
          exact .drops here task asked ended
        · rename_i unasked
          exact Option.some.inj stepped ▸ .starts here task (by simpa using unasked)
      · contradiction
  | handlerEnds index result =>
      simp only [step] at stepped
      split at stepped
      · rename_i child here task
        simp only [Option.ite_none_right_eq_some, Option.some.injEq] at stepped
        exact stepped.2 ▸ .handles here
      · contradiction
  | writerCloses index error =>
      simp only [step] at stepped
      split at stepped
      · rename_i result asked child here task
        obtain ⟨group, ended, rfl⟩ := groupStep_eq_some stepped
        exact .closes here ended
      · contradiction
  | handlerNoticed index =>
      obtain ⟨group, noticed, rfl⟩ := groupStep_eq_some stepped
      exact .notices noticed
  | cancels =>
      obtain ⟨group, asked, rfl⟩ := groupStep_eq_some stepped
      exact .cancels asked
  | interrupts =>
      simp only [step, State.interrupt] at stepped
      split at stepped
      · rename_i here
        exact Option.some.inj stepped ▸ .interruptsSuspend here
      · rename_i here
        obtain ⟨group, interrupted, rfl⟩ := groupStep_eq_some stepped
        exact .interruptsGroup here interrupted
      · rename_i here
        exact Option.some.inj stepped ▸ .interruptsClosing here
      all_goals contradiction
  | resumes =>
      simp only [step] at stepped
      split at stepped
      · rename_i here
        exact Option.some.inj stepped ▸ .resumes here
      all_goals contradiction
  | goesOn => exact move_of_goOn stepped

-----------------------------------------------------------------------------------------
-- Connections
-----------------------------------------------------------------------------------------

/-- Past the group. -/
def Stage.isPast : Stage ε → Bool
  | closing _ _ | ended _ => true
  | serving | suspending _ | leaving => false

/-- There is a handler for each task of the group, which has ended where the task has; with an eager
start each has started; and past the group its tasks have ended.
-/
structure Sound (state : State ε) : Prop where
  group : ∃ count, TaskGroup.Sound count state.group
  settled : state.handlers.map Handler.isEnded = state.group.states.map FutureState.done
  started
    : state.eager = true
      → ∀ handler ∈ state.handlers, handler ≠ .unstarted ∧ handler ≠ .ended false
  past : state.stage.isPast = true → state.group.place.isLeft = true

variable {state : State ε}

theorem sound_initial (eager : Bool) (entered : Task)
    : Sound (State.initial eager entered : State ε) where
  group := ⟨_, TaskGroup.sound_initial false entered⟩
  settled := rfl
  started := by simp [State.initial]
  past := by simp [State.initial, Stage.isPast]

theorem sound_group {group next : TaskGroup.State (VolatileTaskGroup.Error ε)}
    {event : TaskGroup.Event ε} (sound : ∃ count, TaskGroup.Sound count group)
    (stepped : VolatileTaskGroup.step group event = some next)
    : ∃ count, TaskGroup.Sound count next := by
  obtain ⟨count, sound⟩ := sound
  exact ⟨_, sound.step stepped⟩

theorem done_liftResult (result : FutureState ε Unit)
    : (VolatileTaskGroup.liftResult result).done = result.done := by
  cases result <;> rfl

/-- Which tasks have ended after an event. -/
def endsAfter (before : List Bool) : TaskGroup.Event ε → List Bool
  | .creates => before ++ [false]
  | .childEnds index result => before.set index result.done
  | .childNoticed _ | .cancels | .interrupts | .bodyEnds _ | .resumes => before

/-- What a step of the group does to the ends of its tasks. -/
theorem done_step {group next : TaskGroup.State (VolatileTaskGroup.Error ε)}
    {event : TaskGroup.Event ε} (stepped : VolatileTaskGroup.step group event = some next)
    : next.states.map FutureState.done = endsAfter (group.states.map FutureState.done) event := by
  rw [(TaskGroup.step_frame stepped).1]
  cases event with
  | creates =>
      simp only [VolatileTaskGroup.liftEvent, TaskGroup.Event.states, List.map_append]
      rfl
  | childEnds index result =>
      simp only [VolatileTaskGroup.liftEvent, TaskGroup.Event.states, List.map_set,
        done_liftResult, endsAfter]
  | childNoticed | cancels | interrupts | bodyEnds | resumes => rfl

/-- The end of a task is one that is an end. -/
theorem done_of_childEnds {group next : TaskGroup.State (VolatileTaskGroup.Error ε)} {index : Nat}
    {result : FutureState ε Unit}
    (stepped : VolatileTaskGroup.step group (.childEnds index result) = some next)
    : result.done = true := by
  simp only [VolatileTaskGroup.step, VolatileTaskGroup.liftEvent, TaskGroup.step] at stepped
  split at stepped
  · simp only [Option.ite_none_left_eq_some, Bool.or_eq_true, not_or] at stepped
    simpa [done_liftResult] using stepped.1.2
  · contradiction

/-- A step of the group that ends none of its tasks and creates none. -/
theorem Sound.ofGroup {group : TaskGroup.State (VolatileTaskGroup.Error ε)}
    {event : TaskGroup.Event ε} {listening : Bool} {stage : Stage ε} (sound : Sound state)
    (stepped : VolatileTaskGroup.step state.group event = some group)
    (kept : group.states.map FutureState.done = state.group.states.map FutureState.done)
    (past : stage.isPast = true → group.place.isLeft = true)
    : Sound { state with group, listening, stage } where
  group := sound_group sound.group stepped
  settled := sound.settled.trans kept.symm
  started := sound.started
  past := past

/-- The task of a handler ends. -/
theorem Sound.endTask {group : TaskGroup.State (VolatileTaskGroup.Error ε)} {index : Nat}
    {result : FutureState ε Unit} {closed : Bool} (sound : Sound state)
    (ended : VolatileTaskGroup.step state.group (.childEnds index result) = some group)
    (started : state.eager = true → closed = true)
    : Sound { state with handlers := state.handlers.set index (.ended closed), group } where
  group := sound_group sound.group ended
  settled := by
    have states := done_step ended
    rw [endsAfter, done_of_childEnds ended] at states
    simp only [List.map_set, states, sound.settled]
    rfl
  started := by
    intro eager handler inList
    rcases List.mem_or_eq_of_mem_set inList with before | rfl
    · exact sound.started eager handler before
    · simp [started eager]
  past := fun past => TaskGroup.isLeft_step (sound.past past) ended

/-- A handler goes on. -/
theorem Sound.setHandler {index : Nat} {before after : Handler ε} (sound : Sound state)
    (here : state.handlers[index]? = some before) (running : before.isEnded = false)
    (goesOn : after.isEnded = false) (started : after ≠ .unstarted)
    : Sound { state with handlers := state.handlers.set index after } where
  group := sound.group
  settled := by
    rw [← sound.settled, List.map_set]
    apply List.ext_getElem?
    intro other
    rw [List.getElem?_set]
    split
    · rename_i same
      subst same
      obtain ⟨inside, known⟩ := List.getElem?_eq_some_iff.mp here
      simp [inside, known, running, goesOn]
    · rfl
  started := by
    intro eager handler inList
    rcases List.mem_or_eq_of_mem_set inList with known | rfl
    · exact sound.started eager handler known
    · exact ⟨started, fun ended => by simp [ended, Handler.isEnded] at goesOn⟩
  past := sound.past

theorem past_settle (state : State ε)
    : state.settle.stage.isPast = true → state.settle.group.place.isLeft = true := by
  simp only [State.settle]
  cases state.group.place <;> simp [Stage.isPast, TaskGroup.Place.isLeft]

theorem Sound.step {next : State ε} {event : Event ε} (sound : Sound state)
    (stepped : TCPServer.step state event = some next)
    : Sound next := by
  cases move_of_step stepped with
  | attaches => exact ⟨sound.group, sound.settled, sound.started, sound.past⟩
  | refuses => exact ⟨sound.group, sound.settled, sound.started, sound.past⟩
  | connects waits created =>
      refine ⟨sound_group sound.group created, ?_, ?_, ?_⟩
      · rw [done_step created, ← sound.settled, List.map_append]
        cases state.eager <;> rfl
      · intro eager handler inList
        rcases List.mem_append.mp inList with before | new
        · exact sound.started eager handler before
        · rw [List.mem_singleton.mp new]
          simp [show state.eager = true from eager]
      · exact fun past => TaskGroup.isLeft_step (sound.past past) created
  | starts here task unasked => exact sound.setHandler here rfl rfl (by simp)
  | drops here task asked ended =>
      refine sound.endTask ended fun eager => ?_
      exact absurd rfl (sound.started eager _ (List.mem_of_getElem? here)).1
  | handles here => exact sound.setHandler here rfl rfl (by simp)
  | closes here ended => exact sound.endTask ended fun _ => rfl
  | notices noticed =>
      exact sound.ofGroup noticed (done_step noticed) fun past =>
        TaskGroup.isLeft_step (sound.past past) noticed
  | cancels asked =>
      exact sound.ofGroup asked (done_step asked) fun past =>
        TaskGroup.isLeft_step (sound.past past) asked
  | interruptsGroup here interrupted =>
      exact sound.ofGroup interrupted (done_step interrupted) fun past =>
        TaskGroup.isLeft_step (sound.past past) interrupted
  | interruptsSuspend here =>
      exact ⟨sound.group, sound.settled, sound.started, fun past => by contradiction⟩
  | interruptsClosing here =>
      exact ⟨sound.group, sound.settled, sound.started, fun _ => sound.past (here ▸ rfl)⟩
  | resumes here => exact ⟨sound.group, sound.settled, sound.started, fun past => by contradiction⟩
  | suspended here left => exact sound.ofGroup left (done_step left) (past_settle _)
  | interrupted here left => exact sound.ofGroup left (done_step left) (past_settle _)
  | leaves here resumed => exact sound.ofGroup resumed (done_step resumed) (past_settle _)
  | ends here stops =>
      exact ⟨sound.group, sound.settled, sound.started, fun _ => sound.past (here ▸ rfl)⟩

/-- `index` is the connection of a task that is cancelled before its first step. -/
def Dropped (index : Nat) (state : State ε) (event : Event ε) : Prop :=
  event = .handlerStarts index
  ∧ ∃ child, state.group.children[index]? = some child ∧ child.asked = true

theorem getElem?_set_iff {α : Type*} {list : List α} {index other : Nat} {before after target : α}
    (here : list[index]? = some before) (old : before ≠ target) (new : after ≠ target)
    : (list.set index after)[other]? = some target ↔ list[other]? = some target := by
  rw [List.getElem?_set]
  split
  · rename_i same
    subst same
    simp [here, old, new]
  · rfl

/-- A writer is left open by just such a task. -/
theorem dropped_step {next : State ε} {event : Event ε} (index : Nat)
    (stepped : TCPServer.step state event = some next)
    : next.handlers[index]? = some (.ended false)
      ↔ state.handlers[index]? = some (.ended false) ∨ Dropped index state event := by
  cases move_of_step stepped with
  | attaches | refuses | notices | cancels | interruptsSuspend | interruptsGroup | interruptsClosing
  | resumes | suspended | interrupted | leaves | ends =>
      simp [Dropped, State.settle]
  | connects waits created =>
      have new : (if state.eager then .handling else .unstarted : Handler ε) ≠ .ended false := by
        split <;> simp
      simp only [Dropped, reduceCtorEq, false_and, or_false, List.getElem?_append,
        List.getElem?_singleton]
      split
      · rfl
      · rename_i outside
        have beyond := List.getElem?_eq_none (Nat.le_of_not_lt outside)
        rw [beyond]
        split <;> simp [new]
  | @starts started child here task unasked =>
      rw [getElem?_set_iff here (by simp) (by simp), iff_self_or]
      rintro ⟨same, other, there, asked⟩
      obtain rfl := Event.handlerStarts.inj same
      obtain rfl := Option.some.inj (task.symm.trans there)
      simp [unasked] at asked
  | @drops started child group here task asked ended =>
      have inside := (List.getElem?_eq_some_iff.mp here).1
      simp only [List.getElem?_set, inside, ↓reduceIte]
      split
      · rename_i same
        subst same
        exact iff_of_true rfl (.inr ⟨rfl, child, task, asked⟩)
      · rename_i other
        rw [iff_self_or]
        rintro ⟨same, -⟩
        exact absurd (Event.handlerStarts.inj same) other
  | handles here => simp [getElem?_set_iff here, Dropped]
  | closes here ended => simp [getElem?_set_iff here, Dropped]

/-- How many connections the server has accepted. -/
def accepted (events : List (Event ε)) : Nat :=
  events.countP
    (fun
      | .attaches => true
      | _ => false)

/-- Each of them waits to be made, has a handler, or was refused. -/
theorem counted_step {next : State ε} {event : Event ε}
    (stepped : TCPServer.step state event = some next)
    : next.handlers.length + next.refused + next.attached
      = state.handlers.length + state.refused + state.attached + accepted [event] := by
  cases move_of_step stepped with
  | attaches => simp only [accepted, List.countP_cons_of_pos, List.countP_nil]; omega
  | connects waits created =>
      simp only [List.length_append, List.length_singleton, accepted, List.countP_singleton]
      simp only [Bool.false_eq_true, ↓reduceIte]
      omega
  | refuses waits =>
      simp only [accepted, List.countP_singleton, Bool.false_eq_true, ↓reduceIte]
      omega
  | starts | drops | handles | closes => simp [accepted]
  | notices | cancels | interruptsSuspend | interruptsGroup | interruptsClosing | resumes
  | suspended | interrupted | leaves | ends =>
      simp [accepted, State.settle]

/-- The books of the connections, in every order of events. -/
structure Books (entered : Task) (eager : Bool) (events : List (Event ε)) (state : State ε) : Prop
    extends Sound state where
  reached : Transition.run TCPServer.step (State.initial eager entered) events = some state
  same : state.eager = eager
  counted : state.handlers.length + state.refused + state.attached = accepted events
  dropped
    : ∀ index,
        state.handlers[index]? = some (.ended false)
        ↔ Transition.Took TCPServer.step (Dropped index) (State.initial eager entered) events

theorem eager_step {next : State ε} {event : Event ε}
    (stepped : TCPServer.step state event = some next)
    : next.eager = state.eager := by
  cases move_of_step stepped <;> rfl

theorem books_of_run {eager : Bool} {entered : Task} {events : List (Event ε)} {final : State ε}
    (reached : Transition.run TCPServer.step (State.initial eager entered) events = some final)
    : Books entered eager events final := by
  refine Transition.run_preserves_history
    (P := fun past state => Books entered eager past state) ?_ ?_ reached
  · intro past state event next books stepped
    refine ⟨books.toSound.step stepped, Transition.run_concat books.reached stepped,
      (eager_step stepped).trans books.same, ?_, fun index => ?_⟩
    · rw [counted_step stepped, books.counted]
      exact (List.countP_append).symm
    · rw [dropped_step index stepped, books.dropped index,
        Transition.took_concat_iff books.reached]
  · refine ⟨sound_initial eager entered, rfl, rfl, rfl, fun index => ?_⟩
    simp [State.initial, Transition.not_took_nil]

/-- Past its group, in every order of connections, failures, requests and interrupts, `listen()`
has left no task of a handler running. Each connection that the server accepted still waits to
be made, was refused by the group, or had a handler whose writer is closed by then, except where
its task was asked to cancel before its first step; with an eager start there is no such task.
-/
theorem listen_closes_connections {eager : Bool} {entered : Task} {events : List (Event ε)}
    {final : State ε}
    (reached : Transition.run TCPServer.step (State.initial eager entered) events = some final)
    (past : final.stage.isPast = true)
    : (∀ result ∈ final.group.states, result ≠ .pending)
      ∧ final.handlers.length + final.refused + final.attached = accepted events
      ∧ (∀ handler ∈ final.handlers, ∃ closed, handler = .ended closed)
      ∧ (∀ index,
          final.handlers[index]? = some (.ended false)
          ↔ Transition.Took TCPServer.step (Dropped index) (State.initial eager entered) events)
      ∧ (eager = true → ∀ handler ∈ final.handlers, handler = .ended true) := by
  have books := books_of_run reached
  obtain ⟨count, group⟩ := books.group
  have none : final.group.holds = false := by
    have left := books.past past
    cases place : final.group.place with
    | inside | exiting => simp [place, TaskGroup.Place.isLeft] at left
    | left ending exit => exact (place ▸ group.exits).1
  have done : ∀ result ∈ final.group.states, result ≠ .pending := by
    intro result inGroup
    obtain ⟨child, isTask, rfl⟩ := List.mem_map.mp inGroup
    exact group.ended child isTask (TaskGroup.not_holds_iff.mp none child isTask)
  have ended : ∀ handler ∈ final.handlers, ∃ closed, handler = .ended closed := by
    intro handler inList
    have inEnds : handler.isEnded ∈ final.group.states.map FutureState.done :=
      books.settled ▸ List.mem_map_of_mem inList
    obtain ⟨result, inGroup, same⟩ := List.mem_map.mp inEnds
    cases handler with
    | ended closed => exact ⟨closed, rfl⟩
    | unstarted | handling | closing =>
        exact absurd (FutureState.done_eq_false_iff.mp same) (done result inGroup)
  refine ⟨done, books.counted, ended, books.dropped, fun eager handler inList => ?_⟩
  obtain ⟨closed, rfl⟩ := ended handler inList
  cases closed with
  | true => rfl
  | false => exact absurd rfl (books.started (books.same.trans eager) _ inList).2

/-- A connection that is made just before the server is left: its task is cancelled before its first
step.
-/
theorem listen_closes_connections_dropped
    : ∃ final : State String,
        Transition.run TCPServer.step (.initial false { cancelling := 0, message := none })
            [.resumes, .attaches, .connects, .goesOn, .handlerStarts 0, .handlerNoticed 0, .goesOn]
          = some final
        ∧ final.stage.isPast = true
        ∧ final.handlers = [.ended false]
        ∧ Transition.Took TCPServer.step (Dropped 0)
            (.initial false { cancelling := 0, message := none } : State String)
            [.resumes, .attaches, .connects, .goesOn, .handlerStarts 0, .handlerNoticed 0,
              .goesOn] := by
  have reached
      : Transition.run TCPServer.step
          (.initial false { cancelling := 0, message := none } : State String)
          [.resumes, .attaches, .connects, .goesOn, .handlerStarts 0, .handlerNoticed 0, .goesOn]
        = some _ :=
    rfl
  obtain ⟨-, -, -, dropped, -⟩ := listen_closes_connections reached rfl
  exact ⟨_, reached, rfl, rfl, (dropped 0).mp rfl⟩

-----------------------------------------------------------------------------------------
-- The server
-----------------------------------------------------------------------------------------

/-- A `CancelledError` that is thrown at `await suspend()`. -/
def InterruptsSuspend (state : State ε) (event : Event ε) : Prop :=
  event = .interrupts ∧ ∃ interrupted, state.stage = .suspending interrupted

/-- How the server stands, by the stage: it listens up to `server.close()`, which an interrupted
`suspend()` skips; and `listen()` ends with a server that listens only by a `CancelledError`.
-/
def Serves (interrupted : Prop) (listening : Bool) : Stage ε → Prop
  | .serving => listening = true ∧ ¬interrupted
  | .suspending flag => listening = true ∧ (flag = true ↔ interrupted)
  | .leaving | .closing _ _ => listening = true ↔ interrupted
  | .ended raised =>
      (listening = true ↔ interrupted)
      ∧ (listening = true → raised = some (.single .cancelledError))

theorem serves_settle {interrupted : Prop} (serves : state.listening = true ↔ interrupted)
    : Serves interrupted state.settle.listening state.settle.stage := by
  simp only [State.settle]
  cases state.group.place <;> exact serves

theorem serves_step {next : State ε} {event : Event ε} {interrupted later : Prop}
    (serves : Serves interrupted state.listening state.stage)
    (taken : later ↔ interrupted ∨ InterruptsSuspend state event)
    (stepped : TCPServer.step state event = some next)
    : Serves later next.listening next.stage := by
  have calm (quiet : ¬InterruptsSuspend state event) : later ↔ interrupted :=
    taken.trans (or_iff_left quiet)
  cases move_of_step stepped with
  | attaches | refuses | connects | starts | drops | handles | closes | notices | cancels =>
      rw [calm (by simp [InterruptsSuspend])]
      exact serves
  | @interruptsSuspend flag here =>
      rw [here] at serves
      exact ⟨serves.1, iff_of_true rfl (taken.mpr (.inr ⟨rfl, flag, here⟩))⟩
  | interruptsGroup here interrupted =>
      rw [calm (by simp [InterruptsSuspend, here])]
      exact serves
  | interruptsClosing here =>
      rw [calm (by simp [InterruptsSuspend, here])]
      rw [here] at serves
      exact serves
  | resumes here =>
      rw [calm (by simp [InterruptsSuspend])]
      rw [here] at serves
      exact ⟨serves.1, by simp [serves.2]⟩
  | suspended here left =>
      rw [calm (by simp [InterruptsSuspend])]
      rw [here] at serves
      exact serves_settle (by simpa using serves.2)
  | interrupted here left =>
      rw [calm (by simp [InterruptsSuspend])]
      rw [here] at serves
      exact serves_settle (by simpa [serves.1] using serves.2)
  | leaves here resumed =>
      rw [calm (by simp [InterruptsSuspend])]
      rw [here] at serves
      exact serves_settle serves
  | @ends raised interrupts here stops =>
      rw [calm (by simp [InterruptsSuspend])]
      rw [here] at serves
      refine ⟨serves, fun listens => ?_⟩
      have some_interrupt : interrupts ≠ 0 := by
        rintro rfl
        simp [State.stopsWaiting, show state.listening = true from listens] at stops
      simp [some_interrupt]

/-- Past the group nothing closes the server any more. -/
theorem past_step {next : State ε} {event : Event ε} (past : state.stage.isPast = true)
    (stepped : TCPServer.step state event = some next)
    : next.stage.isPast = true ∧ next.listening = state.listening := by
  cases move_of_step stepped with
  | attaches | refuses | connects | starts | drops | handles | closes | notices | cancels =>
      exact ⟨past, rfl⟩
  | interruptsGroup => exact ⟨past, rfl⟩
  | interruptsClosing | ends => exact ⟨rfl, rfl⟩
  | interruptsSuspend here | resumes here | suspended here | interrupted here | leaves here =>
      simp [here, Stage.isPast] at past

/-- Past its group `listen()` has closed its server just where no `CancelledError` was thrown at
`await suspend()`. A server that it left listening does so for good: it is waited for in vain, and
`listen()` ends only by a `CancelledError`.
-/
theorem listen_closes_server_iff {eager : Bool} {entered : Task} {events : List (Event ε)}
    {final : State ε}
    (reached : Transition.run TCPServer.step (State.initial eager entered) events = some final)
    (past : final.stage.isPast = true)
    : (final.listening = false
        ↔ ¬Transition.Took TCPServer.step InterruptsSuspend (State.initial eager entered) events)
      ∧ (∀ later last,
          Transition.run TCPServer.step final later = some last → last.listening = final.listening)
      ∧ ∀ raised,
          final.stage = .ended raised
          → final.listening = true
          → raised = some (.single .cancelledError) := by
  have serves
      : Serves
          (Transition.Took TCPServer.step InterruptsSuspend (State.initial eager entered) events)
          final.listening final.stage := by
    refine (Transition.run_preserves_history
      (P := fun before state =>
        Transition.run TCPServer.step (State.initial eager entered) before = some state
        ∧ Serves
            (Transition.Took TCPServer.step InterruptsSuspend (State.initial eager entered) before)
            state.listening state.stage)
      ?_ ⟨rfl, rfl, Transition.not_took_nil⟩ reached).2
    rintro before state event next ⟨reached, serves⟩ stepped
    exact ⟨Transition.run_concat reached stepped,
      serves_step serves (Transition.took_concat_iff reached) stepped⟩
  refine ⟨?_, ?_, ?_⟩
  · have known : final.listening = true ↔ Transition.Took TCPServer.step InterruptsSuspend
        (State.initial eager entered) events := by
      cases stage : final.stage with
      | serving | suspending | leaving => simp [stage, Stage.isPast] at past
      | closing raised interrupts =>
          rw [stage] at serves
          exact serves
      | ended raised =>
          rw [stage] at serves
          exact serves.1
    rw [← known, Bool.not_eq_true]
  · intro later last went
    refine (Transition.run_preserves
      (P := fun state => state.stage.isPast = true ∧ state.listening = final.listening)
      ?_ ⟨past, rfl⟩ went).2
    rintro state event next ⟨past, same⟩ stepped
    obtain ⟨stays, kept⟩ := past_step past stepped
    exact ⟨stays, kept.trans same⟩
  · intro raised stage listens
    rw [stage] at serves
    exact serves.2 listens

/-- An interrupt at `await suspend()`, in a server without connections. -/
theorem listen_closes_server_interrupted
    : ∃ final : State String,
        Transition.run TCPServer.step (.initial false { cancelling := 0, message := none })
            [.resumes, .interrupts, .goesOn]
          = some final
        ∧ final.listening = true
        ∧ ∀ later last,
            Transition.run TCPServer.step final later = some last → last.listening = true := by
  have reached
      : Transition.run TCPServer.step
          (.initial false { cancelling := 0, message := none } : State String)
          [.resumes, .interrupts, .goesOn]
        = some _ :=
    rfl
  exact ⟨_, reached, rfl, (listen_closes_server_iff reached rfl).2.1⟩

end Aiodrive.TCPServer
