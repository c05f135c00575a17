import Aiodrive.Multiprocessing.Answers

/-! How far a failing call reaches in the child process. An exception that leaves `wait_task()`
ends the task group, and with it the loop that receives the messages and all other tasks.
-/

namespace Aiodrive.ProcessMain

variable {ε α : Type*} {pickle : Pickle ε α} {state next : State ε α}

/-- The event is a step of the task, or about it. -/
def Event.concerns (taskId : Nat) : Event ε α → Bool
  | .create other | .cancel other | .start other _ | .outcome other _ | .drained other =>
      other = taskId
  | .abort => false

/-- The messages sent for a task. -/
def State.messages (state : State ε α) (taskId : Nat) : List (FinishTaskMessage ε α) :=
  state.sent.filter (fun message => message.taskId = taskId)

/-- The call of the task fails at the event: the call of `target` raises an `Exception`, its
awaitable raises one, or the pickling of its answer does.
-/
def State.FailsAt (pickle : Pickle ε α) (state : State ε α) (taskId : Nat) : Event ε α → Prop
  | .start other call =>
      other = taskId
      ∧ state.phases taskId = .created false
      ∧ ∃ error, call = some error ∧ error ≠ .cancelledError
  | .outcome other outcome =>
      other = taskId
      ∧ ((∃ error, outcome = .exception error)
        ∨ ∃ error, pickle.dumps { state := outcome, taskId } = .error error)
  | .create _ | .cancel _ | .drained _ | .abort => False

/-- The call of `target` raises no `Exception`, and the answer can be pickled and sent, or the
one that replaces it where the error of the pickling is caught.
-/
def Absorbs (pickle : Pickle ε α) (state : State ε α) : Event ε α → Prop
  | .start taskId call =>
      state.phases taskId = .created false → call = none ∨ call = some .cancelledError
  | .outcome taskId outcome => pickle.Fits { state := outcome, taskId }
  | .create _ | .cancel _ | .drained _ | .abort => True

instance (message : FinishTaskMessage ε α) : Decidable (pickle.Fits message) :=
  match finished : pickle.finishMessage message with
  | .ok (_, data) =>
      decidable_of_iff (data.length < 2 ^ 32) (by simp [Pickle.Fits, finished])
  | .error _ => isFalse (by simp [Pickle.Fits, finished])

instance [DecidableEq ε] : ∀ event, Decidable (Absorbs pickle state event)
  | .start taskId call =>
      inferInstanceAs (Decidable (state.phases taskId = .created false
        → call = none ∨ call = some .cancelledError))
  | .outcome taskId outcome =>
      inferInstanceAs (Decidable (pickle.Fits { state := outcome, taskId }))
  | .create _ | .cancel _ | .drained _ | .abort => .isTrue trivial

/-- What the failing calls of a run do not touch. Each was answered with a failed state, the loop
goes on receiving, and every task is where its own events alone would have brought it, with
the same messages sent for it.
-/
structure Contained (pickle : Pickle ε α) (events : List (Event ε α)) (final : State ε α)
    : Prop where
  answered
    : ∀ earlier event later middle taskId,
        events = earlier ++ event :: later
        → Transition.run (step pickle) .initial earlier = some middle
        → middle.FailsAt pickle taskId event
        → ∃ message ∈ final.messages taskId, ∃ error, message.state = .exception error
  receiving : final.errors = false ∧ final.aborting = false
  unaffected
    : ∀ taskId,
        ∃ alone,
          Transition.run (step pickle) .initial (events.filter (Event.concerns taskId))
            = some alone
          ∧ alone.phases taskId = final.phases taskId
          ∧ alone.messages taskId = final.messages taskId

-----------------------------------------------------------------------------------------
-- The task group
-----------------------------------------------------------------------------------------

/-- An outcome ends the group exactly if its answer cannot be sent. -/
theorem errors_finish_iff {taskId : Nat} {outcome : FutureState ε α}
    (listed : taskId ∈ state.tasks)
    : (state.finish pickle taskId outcome).errors = true
      ↔ state.errors = true ∨ ¬pickle.Fits { state := outcome, taskId } := by
  unfold State.finish Pickle.Fits
  cases pickle.finishMessage { state := outcome, taskId } with
  | error error => simp [State.fail]
  | ok result =>
      simp only [listed, if_true]
      split
      · rename_i short
        exact (or_iff_left (not_not_intro short)).symm
      · rename_i long
        exact iff_of_true rfl (Or.inr long)

/-- A task makes the group abort at exactly the steps that do not absorb its failure. -/
theorem Sound.errors_step_iff (sound : Sound state) {event : Event ε α}
    (stepped : ProcessMain.step pickle state event = some next)
    : next.errors = true ↔ state.errors = true ∨ ¬Absorbs pickle state event := by
  cases event with
  | create taskId =>
      simp only [ProcessMain.step, Option.ite_none_right_eq_some] at stepped
      obtain ⟨_, same⟩ := stepped
      exact Option.some.inj same ▸ Transition.entered_of_met Iff.rfl trivial
  | cancel taskId =>
      simp only [ProcessMain.step, Option.ite_none_right_eq_some] at stepped
      obtain ⟨_, same⟩ := stepped
      obtain rfl := Option.some.inj same
      apply Transition.entered_of_met _ trivial
      unfold State.cancel
      split <;> rfl
  | start taskId call =>
      cases place : state.phases taskId with
      | created mustCancel =>
          cases mustCancel with
          | true =>
              simp only [ProcessMain.step, place, Option.some.injEq] at stepped
              subst stepped
              exact Transition.entered_of_met Iff.rfl (fun created => by simp [place] at created)
          | false =>
              simp only [ProcessMain.step, place, Option.some.injEq] at stepped
              subst stepped
              unfold State.call
              split
              · exact Transition.entered_of_met Iff.rfl (fun _ => by simp)
              · exact Transition.entered_of_met Iff.rfl (fun _ => by simp)
              · rename_i error notCancelled
                refine iff_of_true rfl (Or.inr (fun absorbs => ?_))
                exact notCancelled (by simpa using absorbs place)
      | absent | running | sending | finished | neverRan | failed =>
          simp [ProcessMain.step, place] at stepped
  | outcome taskId outcome =>
      simp only [ProcessMain.step, Option.ite_none_right_eq_some] at stepped
      obtain ⟨⟨running, _⟩, same⟩ := stepped
      have listed := sound.listed taskId (by simp [running, Phase.Listed])
      exact Option.some.inj same ▸ errors_finish_iff listed
  | drained taskId =>
      simp only [ProcessMain.step, Option.ite_none_right_eq_some] at stepped
      obtain ⟨_, same⟩ := stepped
      exact Option.some.inj same ▸ Transition.entered_of_met Iff.rfl trivial
  | abort =>
      simp only [ProcessMain.step, Option.ite_none_right_eq_some] at stepped
      obtain ⟨_, same⟩ := stepped
      exact Option.some.inj same ▸ Transition.entered_of_met Iff.rfl trivial

/-- A group that aborts never takes it back, and had a task that failed. -/
theorem Sound.aborting_step (sound : Sound state) {event : Event ε α}
    (stepped : ProcessMain.step pickle state event = some next)
    : (state.aborting = true → next.aborting = true)
      ∧ ((state.aborting = true → state.errors = true)
        → next.aborting = true
        → next.errors = true) := by
  have stays : state.errors = true → next.errors = true :=
    fun errors => (sound.errors_step_iff stepped).mpr (Or.inl errors)
  cases move_of_step stepped with
  | aborts errors => exact ⟨fun _ => rfl, fun _ _ => errors⟩
  | creates _ | cancels _ _ | ignores _ | skips _ | runs _ | raises _ | fails _ _ _
  | answers _ _ _ | drains _ =>
      exact ⟨id, fun before aborting => stays (before aborting)⟩

variable {events : List (Event ε α)} {final : State ε α}

/-- The loop goes on receiving exactly if every failure in the run was absorbed. -/
theorem receiving_iff (reached : Transition.run (step pickle) .initial events = some final)
    : final.errors = false ∧ final.aborting = false
      ↔ Transition.Meets (step pickle) (Absorbs pickle) .initial events := by
  have errors : final.errors = true
      ↔ ¬Transition.Meets (step pickle) (Absorbs pickle) .initial events :=
    Transition.bad_iff_not_meets_of_good (Absorbs pickle)
      (fun _ _ _ _ sound stepped => sound.step stepped)
      (fun _ _ _ _ sound stepped => sound.errors_step_iff stepped)
      sound_initial Bool.false_ne_true reached
  have aborting : Sound final ∧ (final.aborting = true → final.errors = true) :=
    Transition.run_preserves
      (P := fun state => Sound state ∧ (state.aborting = true → state.errors = true))
      (fun _ _ _ holds stepped =>
        ⟨holds.1.step stepped, (holds.1.aborting_step stepped).2 holds.2⟩)
      ⟨sound_initial, by simp [State.initial]⟩ reached
  rw [← not_not (a := Transition.Meets ..), ← errors, Bool.not_eq_true, and_iff_left_iff_imp]
  intro none
  by_contra aborts
  simp [none] at aborting
  exact aborts aborting.2

/-- No abort happened in a run whose loop goes on receiving. -/
theorem not_abort_of_receiving
    (reached : Transition.run (step pickle) .initial events = some final)
    (receiving : final.aborting = false)
    : ∀ event ∈ events, event ≠ .abort := by
  rintro event member rfl
  obtain ⟨earlier, later, rfl⟩ := List.append_of_mem member
  obtain ⟨middle, before, after⟩ := Transition.run_append_iff.mp reached
  obtain ⟨next, stepped, tail⟩ := Transition.run_cons_iff.mp after
  have aborting : next.aborting = true := by
    cases move_of_step stepped with
    | aborts _ => rfl
  have sound := Sound.step (sound_of_run before) stepped
  have stays := Transition.run_preserves (P := fun state => Sound state ∧ state.aborting = true)
    (fun _ _ _ holds stepped =>
      ⟨holds.1.step stepped, (holds.1.aborting_step stepped).1 holds.2⟩)
    ⟨sound, aborting⟩ tail
  simp [receiving] at stays

-----------------------------------------------------------------------------------------
-- A task and its own events
-----------------------------------------------------------------------------------------

/-- Two states that a task cannot tell apart. -/
structure Agree (taskId : Nat) (state alone : State ε α) : Prop where
  phase : alone.phases taskId = state.phases taskId
  listed : taskId ∈ alone.tasks ↔ taskId ∈ state.tasks
  messages : alone.messages taskId = state.messages taskId
  accepting : state.aborting = false ∧ alone.aborting = false

section
variable {alone : State ε α} {taskId : Nat}

theorem Agree.setPhase (agree : Agree taskId state alone) (phase : Phase)
    : Agree taskId (state.setPhase taskId phase) (alone.setPhase taskId phase) :=
  ⟨by simp, agree.listed, agree.messages, agree.accepting⟩

theorem Agree.fail (agree : Agree taskId state alone)
    : Agree taskId (state.fail taskId) (alone.fail taskId) :=
  ⟨by simp [State.fail], agree.listed, agree.messages, agree.accepting⟩

theorem Agree.setPhase_other (agree : Agree taskId state alone) {other : Nat}
    (different : other ≠ taskId) (phase : Phase)
    : Agree taskId (state.setPhase other phase) alone :=
  ⟨by simpa [different.symm] using agree.phase, agree.listed, agree.messages, agree.accepting⟩

theorem Agree.fail_other (agree : Agree taskId state alone) {other : Nat}
    (different : other ≠ taskId)
    : Agree taskId (state.fail other) alone :=
  ⟨by simpa [State.fail, different.symm] using agree.phase, agree.listed, agree.messages,
    agree.accepting⟩

/-- The answer of another task. -/
theorem Agree.finish_other (agree : Agree taskId state alone) {other : Nat}
    (different : other ≠ taskId) (outcome : FutureState ε α)
    : Agree taskId (state.finish pickle other outcome) alone := by
  unfold State.finish
  split
  case h_1 => exact agree.fail_other different
  case h_2 message data finished =>
    have deleted : Agree taskId { state with tasks := state.tasks.filter (· ≠ other) } alone :=
      ⟨agree.phase, by simpa [different.symm] using agree.listed, agree.messages,
        agree.accepting⟩
    split_ifs with listed short
    · have foreign : ¬message.taskId = taskId := taskId_finishMessage finished ▸ different
      apply Agree.setPhase_other _ different
      refine ⟨deleted.phase, deleted.listed, ?_, deleted.accepting⟩
      simpa [State.messages, foreign] using agree.messages
    · exact deleted.fail_other different
    · exact agree.fail_other different

/-- The answer of the task itself. -/
theorem Agree.finish (agree : Agree taskId state alone) (outcome : FutureState ε α)
    : Agree taskId (state.finish pickle taskId outcome)
        (alone.finish pickle taskId outcome) := by
  unfold State.finish
  cases pickle.finishMessage { state := outcome, taskId } with
  | error error => exact agree.fail
  | ok result =>
      have deleted
          : Agree taskId { state with tasks := state.tasks.filter (· ≠ taskId) }
              { alone with tasks := alone.tasks.filter (· ≠ taskId) } :=
        ⟨agree.phase, by simp, agree.messages, agree.accepting⟩
      by_cases listed : taskId ∈ state.tasks
      · simp only [listed, agree.listed.mpr listed, if_true]
        split
        · apply Agree.setPhase
          refine ⟨deleted.phase, deleted.listed, ?_, deleted.accepting⟩
          simpa [State.messages] using agree.messages
        · exact deleted.fail
      · simp only [listed, mt agree.listed.mp listed, if_false]
        exact agree.fail

/-- A step of another task goes unnoticed. -/
theorem Agree.skip {event : Event ε α} (agree : Agree taskId state alone)
    (other : event.concerns taskId = false) (noAbort : event ≠ .abort)
    (stepped : step pickle state event = some next)
    : Agree taskId next alone := by
  cases event with
  | abort => contradiction
  | create own =>
      have different : own ≠ taskId := by simpa [Event.concerns] using other
      simp only [step, Option.ite_none_right_eq_some] at stepped
      obtain rfl := Option.some.inj stepped.2
      apply Agree.setPhase_other _ different
      exact ⟨agree.phase, by simpa [different.symm] using agree.listed, agree.messages,
        agree.accepting⟩
  | cancel own =>
      have different : own ≠ taskId := by simpa [Event.concerns] using other
      simp only [step, Option.ite_none_right_eq_some] at stepped
      obtain rfl := Option.some.inj stepped.2
      unfold State.cancel
      split
      · exact agree.setPhase_other different _
      · exact agree
  | start own call =>
      have different : own ≠ taskId := by simpa [Event.concerns] using other
      simp only [step] at stepped
      split at stepped
      · exact Option.some.inj stepped ▸ agree.setPhase_other different _
      · obtain rfl := Option.some.inj stepped
        unfold State.call
        split
        · exact agree.setPhase_other different _
        · exact agree.setPhase_other different _
        · exact agree.fail_other different
      all_goals contradiction
  | outcome own outcome =>
      have different : own ≠ taskId := by simpa [Event.concerns] using other
      simp only [step, Option.ite_none_right_eq_some] at stepped
      exact Option.some.inj stepped.2 ▸ agree.finish_other different outcome
  | drained own =>
      have different : own ≠ taskId := by simpa [Event.concerns] using other
      simp only [step, Option.ite_none_right_eq_some] at stepped
      exact Option.some.inj stepped.2 ▸ agree.setPhase_other different _

/-- A step of the task, or about it, has the same effect for it in both states. -/
theorem Agree.keep {event : Event ε α} (agree : Agree taskId state alone)
    (own : event.concerns taskId = true) (stepped : step pickle state event = some next)
    : ∃ after, step pickle alone event = some after ∧ Agree taskId next after := by
  have phase := agree.phase
  have accepting := agree.accepting.2
  cases event with
  | abort => contradiction
  | create other =>
      obtain rfl : other = taskId := by simpa [Event.concerns] using own
      simp only [step, Option.ite_none_right_eq_some] at stepped
      obtain ⟨⟨absent, _⟩, same⟩ := stepped
      obtain rfl := Option.some.inj same
      refine ⟨alone.create other, by simp [step, phase, absent, accepting], ?_⟩
      exact ⟨by simp [State.create], by simp [State.create], agree.messages, agree.accepting⟩
  | cancel other =>
      obtain rfl : other = taskId := by simpa [Event.concerns] using own
      simp only [step, Option.ite_none_right_eq_some] at stepped
      obtain ⟨⟨known, _⟩, same⟩ := stepped
      obtain rfl := Option.some.inj same
      refine ⟨alone.cancel other, by simp [step, phase, known, accepting], ?_⟩
      unfold State.cancel
      rw [phase]
      by_cases member : other ∈ state.tasks
      · rw [if_pos member, if_pos (agree.listed.mpr member)]
        exact agree.setPhase _
      · rw [if_neg member, if_neg (mt agree.listed.mp member)]
        exact agree
  | start other call =>
      obtain rfl : other = taskId := by simpa [Event.concerns] using own
      simp only [step] at stepped
      split at stepped
      · rename_i created
        refine ⟨alone.setPhase other .neverRan, by simp [step, phase, created], ?_⟩
        exact Option.some.inj stepped ▸ agree.setPhase _
      · rename_i created
        obtain rfl := Option.some.inj stepped
        refine ⟨alone.call other call, by simp [step, phase, created], ?_⟩
        unfold State.call
        split
        · exact agree.setPhase _
        · exact agree.setPhase _
        · exact agree.fail
      all_goals contradiction
  | outcome other outcome =>
      obtain rfl : other = taskId := by simpa [Event.concerns] using own
      simp only [step, Option.ite_none_right_eq_some] at stepped
      obtain ⟨⟨running, done⟩, same⟩ := stepped
      refine ⟨alone.finish pickle other outcome, by simp [step, phase, running, done], ?_⟩
      exact Option.some.inj same ▸ agree.finish outcome
  | drained other =>
      obtain rfl : other = taskId := by simpa [Event.concerns] using own
      simp only [step, Option.ite_none_right_eq_some] at stepped
      obtain ⟨sending, same⟩ := stepped
      refine ⟨alone.setPhase other .finished, by simp [step, phase, sending], ?_⟩
      exact Option.some.inj same ▸ agree.setPhase _

end

/-- In a run whose loop goes on receiving, a task is where its own events alone bring it. -/
theorem unaffected_of_receiving
    (reached : Transition.run (step pickle) .initial events = some final)
    (receiving : final.aborting = false) (taskId : Nat)
    : ∃ alone,
        Transition.run (step pickle) .initial (events.filter (Event.concerns taskId))
          = some alone
        ∧ alone.phases taskId = final.phases taskId
        ∧ alone.messages taskId = final.messages taskId := by
  have noAbort := not_abort_of_receiving reached receiving
  obtain ⟨alone, run, agree⟩
      : ∃ alone,
          Transition.run (step pickle) .initial (events.filter (Event.concerns taskId))
            = some alone
          ∧ Agree taskId final alone := by
    apply Transition.run_filter (Agree taskId) _ _ ⟨rfl, Iff.rfl, rfl, rfl, rfl⟩ reached
    · exact fun _ _ _ _ _ agree own stepped => agree.keep own stepped
    · exact fun _ _ event member _ agree other stepped =>
        agree.skip other (noAbort event member) stepped
  exact ⟨alone, run, agree.phase, agree.messages⟩

-----------------------------------------------------------------------------------------
-- The answers of the failing calls
-----------------------------------------------------------------------------------------

/-- What is sent for an outcome that failed, or whose pickling fails, has a failed state. -/
theorem finishMessage_failed {taskId : Nat} {outcome : FutureState ε α}
    {message : FinishTaskMessage ε α} {data : List UInt8}
    (failed
      : (∃ error, outcome = .exception error)
        ∨ ∃ error, pickle.dumps { state := outcome, taskId } = .error error)
    (finished : pickle.finishMessage { state := outcome, taskId } = .ok (message, data))
    : ∃ error, message.state = .exception error := by
  unfold Pickle.finishMessage at finished
  split at finished
  case h_1 data dumped =>
    rcases failed with ⟨error, rfl⟩ | ⟨error, unpicklable⟩
    · cases finished
      exact ⟨error, rfl⟩
    · simp [dumped] at unpicklable
  case h_2 error dumped =>
    split at finished
    · cases replaced : pickle.dumps { state := .exception error, taskId } with
      | ok bytes =>
          simp only [replaced, Except.map, Except.ok.injEq, Prod.mk.injEq] at finished
          exact ⟨error, finished.1 ▸ rfl⟩
      | error error => simp [replaced, Except.map] at finished
    · contradiction

/-- A failure that is absorbed is answered with a failed state at once. -/
theorem Sound.answered_of_fails (sound : Sound state) {taskId : Nat} {event : Event ε α}
    (fails : state.FailsAt pickle taskId event) (absorbs : Absorbs pickle state event)
    (stepped : ProcessMain.step pickle state event = some next)
    : ∃ message ∈ next.messages taskId, ∃ error, message.state = .exception error := by
  cases event with
  | start other call =>
      obtain ⟨rfl, created, error, rfl, notCancelled⟩ := fails
      exact (notCancelled (by simpa using absorbs created)).elim
  | outcome other outcome =>
      obtain ⟨rfl, failed⟩ := fails
      simp only [ProcessMain.step, Option.ite_none_right_eq_some] at stepped
      obtain ⟨⟨running, _⟩, same⟩ := stepped
      obtain rfl := Option.some.inj same
      have listed := sound.listed other (by simp [running, Phase.Listed])
      cases finished : pickle.finishMessage { state := outcome, taskId := other } with
      | error error => simp [Absorbs, Pickle.Fits, finished] at absorbs
      | ok result =>
          obtain ⟨message, data⟩ := result
          have short : data.length < 2 ^ 32 := by
            simpa [Absorbs, Pickle.Fits, finished] using absorbs
          have own := taskId_finishMessage finished
          refine ⟨message, ?_, finishMessage_failed failed finished⟩
          simp only [State.finish, finished, listed, if_true, if_pos short]
          simp [State.messages, State.setPhase, own]
  | create _ | cancel _ | drained _ | abort => exact fails.elim

/-- No message is taken back. -/
theorem messages_step {taskId : Nat} {message : FinishTaskMessage ε α} {event : Event ε α}
    (sent : message ∈ state.messages taskId) (stepped : step pickle state event = some next)
    : message ∈ next.messages taskId := by
  cases move_of_step stepped with
  | answers running same fits =>
      simp only [State.messages, State.sent_setPhase, List.filter_append]
      exact List.mem_append_left _ sent
  | creates _ | cancels _ _ | ignores _ | skips _ | runs _ | raises _ | fails _ _ _
  | drains _ | aborts _ => exact sent

/-- The failing calls of a run are contained exactly if every step absorbs the failure of its
task: the call of `target` raises no `Exception`, an error of `pickle.dumps` is one that is
caught, and no message is too long. The proof follows the flag that makes the group abort.
-/
theorem failures_contained_iff
    (reached : Transition.run (step pickle) .initial events = some final)
    : Contained pickle events final
      ↔ Transition.Meets (step pickle) (Absorbs pickle) .initial events := by
  refine ⟨fun contained => (receiving_iff reached).mp contained.receiving, fun met => ?_⟩
  have receiving := (receiving_iff reached).mpr met
  refine ⟨?_, receiving, unaffected_of_receiving reached receiving.2⟩
  rintro earlier event later middle taskId rfl before fails
  obtain ⟨_, same, after⟩ := Transition.run_append_iff.mp reached
  obtain rfl := Option.some.inj (before.symm.trans same)
  obtain ⟨next, stepped, tail⟩ := Transition.run_cons_iff.mp after
  obtain ⟨message, sent, failed⟩ :=
    (sound_of_run before).answered_of_fails fails (met.condition before) stepped
  refine ⟨message, ?_, failed⟩
  exact Transition.run_preserves (P := fun state => message ∈ state.messages taskId)
    (fun _ _ _ sent stepped => messages_step sent stepped) sent tail

/-- Tasks that return a local function: `pickle.dumps` raises `AttributeError`, which nothing
catches.
-/
def picklesFailures : Pickle String Unit where
  dumps message :=
    match message.state with
    | .success _ => .error "AttributeError"
    | .cancelled | .exception _ | .pending => .ok (pickleMessage message)
  caught error := error = "TypeError" || error = "PicklingError"

set_option maxRecDepth 2000 in
/-- The awaitable of one call raises, and another task runs on. -/
theorem failures_contained_raised
    : ∃ (events : List (Event String Unit)) (final : State String Unit),
        Transition.run (step picklesFailures) .initial events = some final
        ∧ final.phases 1 = .running
        ∧ Contained picklesFailures events final := by
  have reached
      : Transition.run (step picklesFailures) .initial
          [.create 0, .create 1, .start 0 none, .start 1 none, .outcome 0 (.exception "ValueError")]
        = some _ :=
    rfl
  exact ⟨_, _, reached, rfl, (failures_contained_iff reached).mpr (by decide)⟩

/-- Calling `target` raises a `TypeError`, as it does for wrong arguments: the call is not answered,
and the group aborts.
-/
theorem failure_ends_the_group
    : ∃ (events : List (Event String Unit)) (final : State String Unit),
        Transition.run (step picklesFailures) .initial events = some final
        ∧ final.aborting = true
        ∧ final.messages 0 = []
        ∧ ¬Contained picklesFailures events final :=
  ⟨[.create 0, .create 1, .start 0 (some (.exception "TypeError")), .abort], _, rfl, rfl, rfl,
    fun contained => Bool.false_ne_true contained.receiving.2.symm⟩

end Aiodrive.ProcessMain
