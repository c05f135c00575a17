import Aiodrive.Multiprocessing.ProcessMain

/-! A task of the child process is answered exactly if its `wait_task()` gets to
`absorb_awaitable()` and its answer can be sent. A task that is cancelled before its first step
does not run at all, and its entry stays in `tasks`.
-/

namespace Aiodrive.ProcessMain

variable {ε α : Type*} {pickle : Pickle ε α} {state next : State ε α}

/-- The message, or the one that replaces it, can be pickled and sent. -/
def Pickle.Fits (pickle : Pickle ε α) (message : FinishTaskMessage ε α) : Prop :=
  match pickle.finishMessage message with
  | .ok (_, data) => data.length < 2 ^ 32
  | .error _ => False

/-- The event does not cancel a task before its first step, where the call of `target` raises
nothing, and an outcome can be sent.
-/
def LetsAnswer (pickle : Pickle ε α) (state : State ε α) : Event ε α → Prop
  | .cancel taskId => ∀ mustCancel, state.phases taskId ≠ .created mustCancel
  | .start _ call => call = none
  | .outcome taskId outcome => pickle.Fits { state := outcome, taskId }
  | .create _ | .drained _ | .abort => True

/-- Some task ends without an answer. -/
def Unanswered (state : State ε α) : Prop :=
  ∃ taskId, (state.phases taskId).Lost

/-- A task is in `tasks` up to its answer, answers are counted by the phases, and a `TaskGroup`
that is to abort has a task that failed.
-/
structure Sound (state : State ε α) : Prop where
  listed : ∀ taskId, (state.phases taskId).Listed → taskId ∈ state.tasks
  answers : ∀ taskId, state.answers taskId = (state.phases taskId).answers
  errors : state.errors = true → ∃ taskId, state.phases taskId = .failed

theorem sound_initial : Sound (.initial : State ε α) :=
  {
    listed := by simp [State.initial, Phase.Listed]
    answers := by simp [State.initial, State.answers, Phase.answers]
    errors := by simp [State.initial]
  }

theorem taskId_finishMessage {message sent : FinishTaskMessage ε α} {data : List UInt8}
    (finished : pickle.finishMessage message = .ok (sent, data))
    : sent.taskId = message.taskId := by
  unfold Pickle.finishMessage at finished
  split at finished
  · cases finished
    rfl
  · split at finished
    · cases dumped : pickle.dumps { message with state := .exception ‹ε› } with
      | ok bytes =>
          simp only [dumped, Except.map, Except.ok.injEq, Prod.mk.injEq] at finished
          exact finished.1 ▸ rfl
      | error error => simp [dumped, Except.map] at finished
    · contradiction

-----------------------------------------------------------------------------------------
-- What a step can do
-----------------------------------------------------------------------------------------

/-- The steps, by what happens to the task. -/
inductive Move (pickle : Pickle ε α) (state : State ε α) : Event ε α → State ε α → Prop where
  | creates {taskId : Nat} (absent : state.phases taskId = .absent)
    : Move pickle state (.create taskId) (state.create taskId)
  | cancels {taskId : Nat} {mustCancel : Bool}
    (created : state.phases taskId = .created mustCancel) (listed : taskId ∈ state.tasks)
    : Move pickle state (.cancel taskId) (state.setPhase taskId (.created true))
  | ignores {taskId : Nat}
    (other : taskId ∈ state.tasks → ∀ mustCancel, state.phases taskId ≠ .created mustCancel)
    : Move pickle state (.cancel taskId) state
  | skips {taskId : Nat} {call : Option (Raised ε)}
    (created : state.phases taskId = .created true)
    : Move pickle state (.start taskId call) (state.setPhase taskId .neverRan)
  | runs {taskId : Nat} (created : state.phases taskId = .created false)
    : Move pickle state (.start taskId none) (state.setPhase taskId .running)
  | raises {taskId : Nat} {error : Raised ε} {errors : Bool}
    (created : state.phases taskId = .created false)
    : Move pickle state (.start taskId (some error))
        ({ state with errors }.setPhase taskId .failed)
  | fails {taskId : Nat} {outcome : FutureState ε α} {tasks : List Nat}
    (running : state.phases taskId = .running)
    (unfit : taskId ∈ state.tasks → ¬pickle.Fits { state := outcome, taskId })
    (others : ∀ other ∈ state.tasks, other ≠ taskId → other ∈ tasks)
    : Move pickle state (.outcome taskId outcome)
        ({ state with tasks, errors := true }.setPhase taskId .failed)
  | answers {taskId : Nat} {outcome : FutureState ε α} {message : FinishTaskMessage ε α}
    (running : state.phases taskId = .running) (same : message.taskId = taskId)
    (fits : pickle.Fits { state := outcome, taskId })
    : Move pickle state (.outcome taskId outcome)
        ({ state with
            tasks := state.tasks.filter (· ≠ taskId)
            sent := state.sent ++ [message] }.setPhase taskId .sending)
  | drains {taskId : Nat} (sending : state.phases taskId = .sending)
    : Move pickle state (.drained taskId) (state.setPhase taskId .finished)
  | aborts (errors : state.errors = true) : Move pickle state .abort state.abort

theorem move_of_cancel (taskId : Nat)
    : Move pickle state (.cancel taskId) (state.cancel taskId) := by
  unfold State.cancel
  split
  case isFalse absent => exact .ignores (fun listed => (absent listed).elim)
  case isTrue listed =>
    cases place : state.phases taskId with
    | created mustCancel => exact .cancels place listed
    | absent | running | sending | finished | neverRan | failed =>
        have unchanged : state.setPhase taskId (state.phases taskId) = state := by
          simp [State.setPhase]
        rw [place] at unchanged
        simp only [Phase.cancel, unchanged]
        exact .ignores (fun _ mustCancel created => by simp [place] at created)

theorem move_of_outcome {taskId : Nat} {outcome : FutureState ε α}
    (running : state.phases taskId = .running)
    : Move pickle state (.outcome taskId outcome) (state.finish pickle taskId outcome) := by
  unfold State.finish
  split
  case h_1 error failed =>
    exact .fails running (fun _ => by simp [Pickle.Fits, failed]) (fun _ listed _ => listed)
  case h_2 message data finished =>
    split_ifs with listed short
    · exact .answers running (taskId_finishMessage finished) (by simpa [Pickle.Fits, finished])
    · refine .fails running (fun _ => by simpa [Pickle.Fits, finished] using short) ?_
      intro other member different
      simpa using ⟨member, different⟩
    · exact .fails running (fun member => (listed member).elim) (fun _ member _ => member)

theorem move_of_step {event : Event ε α} (stepped : step pickle state event = some next)
    : Move pickle state event next := by
  cases event with
  | create taskId =>
      simp only [step] at stepped
      split_ifs at stepped with enabled
      exact Option.some.inj stepped ▸ .creates enabled.1
  | cancel taskId =>
      simp only [step] at stepped
      split_ifs at stepped
      exact Option.some.inj stepped ▸ move_of_cancel taskId
  | start taskId call =>
      cases place : state.phases taskId with
      | created mustCancel =>
          cases mustCancel with
          | true =>
              simp only [step, place, Option.some.injEq] at stepped
              exact stepped ▸ .skips place
          | false =>
              simp only [step, place, Option.some.injEq] at stepped
              subst stepped
              unfold State.call
              split
              · exact .runs place
              · exact .raises place
              · exact .raises place
      | absent | running | sending | finished | neverRan | failed =>
          simp [step, place] at stepped
  | outcome taskId outcome =>
      simp only [step] at stepped
      split_ifs at stepped with enabled
      exact Option.some.inj stepped ▸ move_of_outcome enabled.1
  | drained taskId =>
      simp only [step] at stepped
      split_ifs at stepped with sending
      exact Option.some.inj stepped ▸ .drains sending
  | abort =>
      simp only [step] at stepped
      split_ifs at stepped with enabled
      exact Option.some.inj stepped ▸ .aborts enabled.1

-----------------------------------------------------------------------------------------
-- Steps keep the invariant, and lose a task for ever
-----------------------------------------------------------------------------------------

/-- A task changes its phase, and `tasks` at most at its id. -/
theorem Sound.change (sound : Sound state) {taskId : Nat} {phase : Phase} {tasks : List Nat}
    {sent : List (FinishTaskMessage ε α)} {errors : Bool}
    (others : ∀ other ∈ state.tasks, other ≠ taskId → other ∈ tasks)
    (listed : phase.Listed → taskId ∈ tasks)
    (answers
      : ∀ other,
          (sent.map FinishTaskMessage.taskId).count other
          = if other = taskId then phase.answers else state.answers other)
    (failed : phase = .failed ∨ errors = state.errors ∧ state.phases taskId ≠ .failed)
    : Sound ({ state with tasks, sent, errors }.setPhase taskId phase) := by
  exact {
    listed := by
      intro other place
      rw [State.phases_setPhase] at place
      split at place
      case isTrue same => exact same ▸ listed place
      case isFalse different => exact others other (sound.listed other place) different
    answers := by
      intro other
      rw [State.phases_setPhase]
      apply (answers other).trans
      split
      case isTrue => rfl
      case isFalse => exact sound.answers other
    errors := by
      intro hasFailed
      rcases failed with rfl | ⟨same, unchanged⟩
      · exact ⟨taskId, by simp⟩
      · obtain ⟨other, place⟩ := sound.errors (same ▸ hasFailed)
        have different : other ≠ taskId := fun same => unchanged (same ▸ place)
        exact ⟨other, by simpa [different] using place⟩
  }

/-- Without a new message, a task has as many answers as before. -/
theorem Sound.count_unsent (sound : Sound state) {taskId : Nat} {phase : Phase}
    (answers : phase.answers = (state.phases taskId).answers) (other : Nat)
    : (state.sent.map FinishTaskMessage.taskId).count other
      = if other = taskId then phase.answers else state.answers other := by
  split
  case isTrue same =>
    subst same
    exact (sound.answers other).trans answers.symm
  case isFalse => rfl

theorem Sound.setPhase (sound : Sound state) {taskId : Nat} {phase : Phase}
    (listed : phase.Listed → taskId ∈ state.tasks)
    (answers : phase.answers = (state.phases taskId).answers)
    (unchanged : state.phases taskId ≠ .failed)
    : Sound (state.setPhase taskId phase) :=
  sound.change (fun _ member _ => member) listed (sound.count_unsent answers)
    (Or.inr ⟨rfl, unchanged⟩)

theorem Sound.answer (sound : Sound state) {taskId : Nat} {message : FinishTaskMessage ε α}
    (running : state.phases taskId = .running) (same : message.taskId = taskId)
    : Sound
        ({ state with
            tasks := state.tasks.filter (· ≠ taskId)
            sent := state.sent ++ [message] }.setPhase taskId .sending) := by
  have none := sound.answers taskId
  simp only [running, Phase.answers] at none
  refine sound.change ?_ (by simp [Phase.Listed]) ?_ (Or.inr ⟨rfl, by simp [running]⟩)
  · intro other member different
    simpa using ⟨member, different⟩
  · intro other
    rw [List.map_append, List.count_append, List.map_singleton, same]
    split
    case isTrue here =>
      subst here
      simp only [State.answers] at none
      simp [none, Phase.answers]
    case isFalse different =>
      have different : taskId ≠ other := Ne.symm different
      simp [State.answers, different]

theorem answers_cancel (phase : Phase) : phase.cancel.answers = phase.answers := by
  cases phase <;> rfl

theorem Sound.abort (sound : Sound state) : Sound state.abort := by
  have place : ∀ taskId, state.abort.phases taskId = (state.phases taskId).cancel := fun _ => rfl
  exact {
    listed := by
      intro taskId listed
      apply sound.listed taskId
      rw [place] at listed
      cases before : state.phases taskId with
      | created | running => trivial
      | absent | sending | finished | neverRan | failed =>
          simp [before, Phase.cancel, Phase.Listed] at listed
    answers := by
      intro taskId
      rw [place, answers_cancel]
      exact sound.answers taskId
    errors := by
      intro errors
      obtain ⟨taskId, failed⟩ := sound.errors errors
      exact ⟨taskId, by rw [place, failed]; rfl⟩
  }

theorem Sound.step (sound : Sound state) {event : Event ε α}
    (stepped : step pickle state event = some next)
    : Sound next := by
  cases move_of_step stepped with
  | creates absent =>
      exact sound.change (fun _ member _ => List.mem_append_left _ member) (by simp)
        (sound.count_unsent (by simp [absent, Phase.answers])) (Or.inr ⟨rfl, by simp [absent]⟩)
  | cancels created listed =>
      exact sound.setPhase (fun _ => listed) (by simp [created, Phase.answers])
        (by simp [created])
  | ignores other => exact sound
  | skips created =>
      exact sound.setPhase (by simp [Phase.Listed]) (by simp [created, Phase.answers])
        (by simp [created])
  | runs created =>
      exact sound.setPhase (fun _ => sound.listed _ (by simp [created, Phase.Listed]))
        (by simp [created, Phase.answers]) (by simp [created])
  | raises created =>
      exact sound.change (fun _ listed _ => listed) (by simp [Phase.Listed])
        (sound.count_unsent (by simp [created, Phase.answers])) (Or.inl rfl)
  | fails running unfit others =>
      exact sound.change others (by simp [Phase.Listed])
        (sound.count_unsent (by simp [running, Phase.answers])) (Or.inl rfl)
  | answers running same fits => exact sound.answer running same
  | drains sending =>
      exact sound.setPhase (by simp [Phase.Listed]) (by simp [sending, Phase.answers])
        (by simp [sending])
  | aborts errors => exact sound.abort

/-- A task that is lost stays so. -/
theorem lost_step {event : Event ε α} {taskId : Nat} (lost : (state.phases taskId).Lost)
    (stepped : step pickle state event = some next)
    : (next.phases taskId).Lost := by
  have other
      : ∀ (changed : Nat) (phase : Phase),
          ((state.phases changed).Lost → phase.Lost)
          → ((state.setPhase changed phase).phases taskId).Lost := by
    intro changed phase stays
    rw [State.phases_setPhase]
    split
    case isTrue same => exact stays (same ▸ lost)
    case isFalse => exact lost
  cases move_of_step stepped with
  | creates absent => exact other _ _ (by simp [absent, Phase.Lost])
  | cancels created listed => exact other _ _ (fun _ => trivial)
  | ignores unchanged => exact lost
  | skips created => exact other _ _ (fun _ => trivial)
  | runs created => exact other _ _ (by simp [created, Phase.Lost])
  | raises created => exact other _ _ (fun _ => trivial)
  | fails running unfit others => exact other _ _ (fun _ => trivial)
  | answers running same fits => exact other _ _ (by simp [running, Phase.Lost])
  | drains sending => exact other _ _ (by simp [sending, Phase.Lost])
  | aborts errors =>
      have place : state.abort.phases taskId = (state.phases taskId).cancel := rfl
      rw [place]
      cases before : state.phases taskId with
      | created mustCancel => trivial
      | neverRan => trivial
      | failed => trivial
      | absent | running | sending | finished => simp [before, Phase.Lost] at lost

-----------------------------------------------------------------------------------------
-- Which runs answer every task
-----------------------------------------------------------------------------------------

theorem unanswered_setPhase {taskId : Nat} {phase : Phase} (lost : phase.Lost)
    : Unanswered (state.setPhase taskId phase) :=
  ⟨taskId, by simpa using lost⟩

theorem unanswered_of_setPhase {taskId : Nat} {phase : Phase}
    (before : phase.Lost → (state.phases taskId).Lost)
    (unanswered : Unanswered (state.setPhase taskId phase))
    : Unanswered state := by
  obtain ⟨other, lost⟩ := unanswered
  rw [State.phases_setPhase] at lost
  split at lost
  case isTrue => exact ⟨taskId, before lost⟩
  case isFalse => exact ⟨other, lost⟩

/-- A step leaves a task unanswered if the state had one, or if it does not let its task answer.
-/
theorem Sound.unanswered_step_iff (sound : Sound state) {event : Event ε α}
    (stepped : ProcessMain.step pickle state event = some next)
    : Unanswered next ↔ Unanswered state ∨ ¬LetsAnswer pickle state event := by
  have stays : Unanswered state → Unanswered next :=
    fun ⟨taskId, lost⟩ => ⟨taskId, lost_step lost stepped⟩
  have lets
      : LetsAnswer pickle state event
        → (Unanswered next → Unanswered state)
        → (Unanswered next ↔ Unanswered state ∨ ¬LetsAnswer pickle state event) :=
    fun holds before => Transition.entered_of_met ⟨before, stays⟩ holds
  cases move_of_step stepped with
  | creates absent => exact lets trivial (unanswered_of_setPhase (by simp [Phase.Lost]))
  | cancels created listed =>
      exact iff_of_true (unanswered_setPhase trivial) (Or.inr (fun spared => spared _ created))
  | @ignores taskId other =>
      refine lets (fun mustCancel created => ?_) id
      have listed := sound.listed taskId (by simp [created, Phase.Listed])
      exact other listed mustCancel created
  | skips created =>
      exact iff_of_true (unanswered_setPhase trivial)
        (Or.inl ⟨_, (congrArg Phase.Lost created).mpr trivial⟩)
  | runs created => exact lets rfl (unanswered_of_setPhase (by simp [Phase.Lost]))
  | raises created =>
      exact iff_of_true (unanswered_setPhase trivial) (Or.inr (by simp [LetsAnswer]))
  | @fails taskId outcome tasks running unfit others =>
      have listed := sound.listed taskId (by simp [running, Phase.Listed])
      exact iff_of_true (unanswered_setPhase trivial) (Or.inr (unfit listed))
  | answers running same fits => exact lets fits (unanswered_of_setPhase (by simp [Phase.Lost]))
  | drains sending => exact lets trivial (unanswered_of_setPhase (by simp [Phase.Lost]))
  | aborts errors =>
      obtain ⟨taskId, failed⟩ := sound.errors errors
      have lost : Unanswered state := ⟨taskId, by simp [failed, Phase.Lost]⟩
      exact iff_of_true (stays lost) (Or.inl lost)

/-- A task that is not lost will run its body or has its answer, and one that is lost neither. -/
theorem Sound.not_lost_iff (sound : Sound state) {taskId : Nat}
    (known : state.phases taskId ≠ .absent)
    : ¬(state.phases taskId).Lost
      ↔ (state.phases taskId).WillRun ∧ state.answers taskId = 0
        ∨ ¬(state.phases taskId).WillRun ∧ state.answers taskId = 1 := by
  rw [sound.answers taskId]
  cases place : state.phases taskId with
  | absent => exact (known place).elim
  | created mustCancel => cases mustCancel <;> simp [Phase.Lost, Phase.WillRun, Phase.answers]
  | running | sending | finished | neverRan | failed =>
      simp [Phase.Lost, Phase.WillRun, Phase.answers]

theorem Sound.no_answer_of_lost (sound : Sound state) {taskId : Nat}
    (lost : (state.phases taskId).Lost)
    : ¬(state.phases taskId).WillRun ∧ state.answers taskId = 0 := by
  rw [sound.answers taskId]
  cases place : state.phases taskId with
  | created mustCancel => cases mustCancel <;> simp_all [Phase.Lost, Phase.WillRun, Phase.answers]
  | neverRan | failed => simp [Phase.WillRun, Phase.answers]
  | absent | running | sending | finished => simp [place, Phase.Lost] at lost

/-- A task that is in `target` is answered with the outcome. -/
theorem Sound.answered_of_running (sound : Sound state) {taskId : Nat}
    {outcome : FutureState ε α} (running : state.phases taskId = .running)
    (done : outcome.done = true) (fits : pickle.Fits { state := outcome, taskId })
    : ∃ last,
        ProcessMain.step pickle state (.outcome taskId outcome) = some last
        ∧ last.answers taskId = 1 := by
  obtain ⟨last, stepped⟩
      : ∃ last, ProcessMain.step pickle state (.outcome taskId outcome) = some last :=
    ⟨state.finish pickle taskId outcome, by simp [ProcessMain.step, running, done]⟩
  refine ⟨last, stepped, ?_⟩
  have listed := sound.listed taskId (by simp [running, Phase.Listed])
  rw [(sound.step stepped).answers taskId]
  cases move_of_step stepped with
  | fails _ unfit => exact (unfit listed fits).elim
  | answers => simp [Phase.answers]

variable {events : List (Event ε α)} {final : State ε α}

theorem sound_of_run (reached : Transition.run (step pickle) .initial events = some final)
    : Sound final :=
  Transition.run_preserves (fun _ _ _ sound stepped => Sound.step sound stepped)
    sound_initial reached

/-- A task that will run its body is answered once its awaitable is absorbed with an outcome that
can be sent.
-/
theorem answered_of_willRun {taskId : Nat} {outcome : FutureState ε α}
    (reached : Transition.run (step pickle) .initial events = some final)
    (willRun : (final.phases taskId).WillRun) (done : outcome.done = true)
    (fits : pickle.Fits { state := outcome, taskId })
    : ∃ later last,
        Transition.run (step pickle) final later = some last ∧ last.answers taskId = 1 := by
  have sound := sound_of_run reached
  cases place : final.phases taskId with
  | running =>
      obtain ⟨last, stepped, answers⟩ := sound.answered_of_running place done fits
      exact ⟨[.outcome taskId outcome], last, by simp [Transition.run, stepped], answers⟩
  | created mustCancel =>
      cases mustCancel with
      | true => simp [place, Phase.WillRun] at willRun
      | false =>
          have started
              : step pickle final (.start taskId none) = some (final.setPhase taskId .running) := by
            simp [step, place, State.call]
          have running := sound.step started
          obtain ⟨last, stepped, answers⟩ :=
            running.answered_of_running (by simp) done fits
          refine ⟨[.start taskId none, .outcome taskId outcome], last, ?_, answers⟩
          simp [Transition.run, started, stepped]
  | absent | sending | finished | neverRan | failed => simp [place, Phase.WillRun] at willRun

/-- In every run, every task that was created either will run its body and was sent no answer, or
was sent exactly one, if and only if no step of the run kept a task from answering. Otherwise
some task is not answered whatever happens later. The proof follows the phases of the tasks,
of which the lost ones are never left.
-/
theorem tasks_answered_iff (reached : Transition.run (step pickle) .initial events = some final)
    : ((∀ taskId,
          final.phases taskId ≠ .absent
          → (final.phases taskId).WillRun ∧ final.answers taskId = 0
            ∨ ¬(final.phases taskId).WillRun ∧ final.answers taskId = 1)
        ↔ Transition.Meets (step pickle) (LetsAnswer pickle) .initial events)
      ∧ (¬Transition.Meets (step pickle) (LetsAnswer pickle) .initial events
        → ∃ taskId,
            final.phases taskId ≠ .absent
            ∧ ∀ later last,
                Transition.run (step pickle) final later = some last
                → ¬(last.phases taskId).WillRun ∧ last.answers taskId = 0) := by
  have sound := sound_of_run reached
  have unanswered
      : Unanswered final
        ↔ ¬Transition.Meets (step pickle) (LetsAnswer pickle) .initial events :=
    Transition.bad_iff_not_meets_of_good (LetsAnswer pickle)
      (fun _ _ _ _ sound stepped => sound.step stepped)
      (fun _ _ _ _ sound stepped => sound.unanswered_step_iff stepped)
      sound_initial (fun ⟨_, lost⟩ => lost) reached
  refine ⟨?_, fun unmet => ?_⟩
  · rw [← not_not (a := Transition.Meets ..), ← unanswered]
    constructor
    · rintro answered ⟨taskId, lost⟩
      have known : final.phases taskId ≠ .absent := by
        intro absent
        simp [absent, Phase.Lost] at lost
      exact (sound.not_lost_iff known).mpr (answered taskId known) lost
    · intro noneLost taskId known
      exact (sound.not_lost_iff known).mp (fun lost => noneLost ⟨taskId, lost⟩)
  · obtain ⟨taskId, lost⟩ := unanswered.mpr unmet
    refine ⟨taskId, fun absent => by simp [absent, Phase.Lost] at lost, ?_⟩
    intro later last run
    have soundLast : Sound last :=
      Transition.run_preserves (fun _ _ _ sound stepped => Sound.step sound stepped) sound run
    have still : (last.phases taskId).Lost :=
      Transition.run_preserves (P := fun state => (state.phases taskId).Lost)
        (fun _ _ _ lost stepped => lost_step lost stepped) lost run
    exact soundLast.no_answer_of_lost still

/-- Tasks that return `None` or raise built-in exceptions. -/
def picklesAll : Pickle String Unit where
  dumps message := .ok (pickleMessage message)
  caught error := error = "TypeError" || error = "PicklingError"

/-- A task is cancelled before its first step: it does not run its body, and was not answered. -/
theorem task_lost_at_cancellation
    : ∃ final : State String Unit,
        Transition.run (step picklesAll) .initial [.create 0, .cancel 0, .start 0 none]
          = some final
        ∧ final.phases 0 = .neverRan
        ∧ ¬(final.phases 0).WillRun
        ∧ final.answers 0 = 0 :=
  ⟨_, rfl, rfl, id, rfl⟩

set_option maxRecDepth 2000 in
/-- Of two tasks, one is cancelled in `target` and answered, and the other will run its body. -/
theorem tasks_answered_iff_twoTasks
    : ∃ events, ∃ final : State String Unit,
        Transition.run (step picklesAll) .initial events = some final
        ∧ Transition.Meets (step picklesAll) (LetsAnswer picklesAll) .initial events
        ∧ final.answers 0 = 1
        ∧ (final.phases 1).WillRun := by
  have reached
      : Transition.run (step picklesAll) (.initial : State String Unit)
          [.create 0, .start 0 none, .cancel 0, .create 1, .outcome 0 .cancelled, .drained 0]
        = some _ :=
    rfl
  have answered := tasks_answered_iff reached
  refine ⟨_, _, reached, answered.1.mp ?_, rfl, trivial⟩
  intro taskId known
  match taskId with
  | 0 => exact Or.inr ⟨id, rfl⟩
  | 1 => exact Or.inl ⟨trivial, rfl⟩
  | taskId + 2 => exact (known rfl).elim

end Aiodrive.ProcessMain
