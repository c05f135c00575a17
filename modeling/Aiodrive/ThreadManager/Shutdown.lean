import Aiodrive.ThreadManager.Invariant

/-! Calls of `spawn()` that meet the exit of their manager. A call that is accepted hangs exactly if
one stage of its hand-over meets a later stage of the shutdown, at four places.
-/

namespace Aiodrive.ThreadManager

variable {ε α : Type*} {state next : State ε α}

/-- Nothing will resolve the future of the call: `_create()` failed or will not run any more, or
`create_task()` is cancelled before its first step.
-/
def Spawn.Lost (loop : LoopPhase) (spawn : Spawn ε α) : Prop :=
  match spawn.stage with
  | .rejected | .skipped | .created true => True
  | .queued => loop ≠ .running
  | .unspawned | .refused | .created false | .running | .transferring _ | .transferred => False

/-- Some call is lost. -/
def SomeLost (state : State ε α) : Prop :=
  ∃ taskId, (state.spawns taskId).Lost state.loop

/-- The shutdown does not overtake a call: no call is accepted between the end of the loop and its
closing, `_create()` finds the group open, the abort of the group finds no `create_task()`
before its first step, and the loop stops with no `_create()` in its queue.
-/
def Timely (state : State ε α) : Event ε α → Prop
  | .spawn => state.loop ≠ .stopped
  | .create _ => state.group = .running
  | .abort => ∀ taskId, (state.spawns taskId).stage ≠ .created false
  | .stopLoop => ∀ taskId, (state.spawns taskId).stage ≠ .queued
  | .start _ | .innerEnds _ _ | .wrapperResumes _ | .transfer _ | .groupEnds | .closeLoop
  | .cancelCaller _ _ | .cancelRuns _ | .resume _ => True

/-- Whether some call is lost after a step of one call. -/
theorem someLost_setSpawn (state : State ε α) (taskId : Nat) (spawn : Spawn ε α)
    : SomeLost (state.setSpawn taskId spawn)
      ↔ spawn.Lost state.loop
        ∨ ∃ other, other ≠ taskId ∧ (state.spawns other).Lost state.loop := by
  have own : (state.setSpawn taskId spawn).spawns taskId = spawn := Function.update_self ..
  have others {other : Nat} (different : other ≠ taskId)
      : (state.setSpawn taskId spawn).spawns other = state.spawns other :=
    Function.update_of_ne different ..
  constructor
  · intro lost
    obtain ⟨other, lost⟩ := lost
    by_cases same : other = taskId
    · subst same
      exact .inl (own ▸ lost)
    · exact .inr ⟨other, same, others same ▸ lost⟩
  · intro lost
    rcases lost with lost | ⟨other, different, lost⟩
    · exact ⟨taskId, own.symm ▸ lost⟩
    · exact ⟨other, (others different).symm ▸ lost⟩

/-- A step of a call that is lost after it exactly if it was before. -/
theorem someLost_setSpawn_of_iff {taskId : Nat} {spawn : Spawn ε α}
    (same : spawn.Lost state.loop ↔ (state.spawns taskId).Lost state.loop)
    : SomeLost (state.setSpawn taskId spawn) ↔ SomeLost state := by
  rw [someLost_setSpawn, same]
  constructor
  · intro lost
    rcases lost with lost | ⟨other, _, lost⟩
    · exact ⟨taskId, lost⟩
    · exact ⟨other, lost⟩
  · intro lost
    obtain ⟨other, lost⟩ := lost
    by_cases own : other = taskId
    · exact .inl (own ▸ lost)
    · exact .inr ⟨other, own, lost⟩

/-- Whether a call is lost depends on its stage only. -/
theorem lost_congr {loop : LoopPhase} {spawn other : Spawn ε α}
    (same : spawn.stage = other.stage)
    : spawn.Lost loop ↔ other.Lost loop := by
  simp only [Spawn.Lost, same]

/-- The abort of the group loses the calls whose `create_task()` it finds before its first step. -/
theorem lost_abort_iff (loop : LoopPhase) (spawn : Spawn ε α)
    : spawn.abort.Lost loop ↔ spawn.Lost loop ∨ spawn.stage = .created false := by
  unfold Spawn.abort
  cases stage : spawn.stage with
  | created mustCancel => cases mustCancel <;> simp [Spawn.Lost, stage]
  | _ => simp [Spawn.Lost, stage]

/-- A loop that stops loses the calls whose `_create` is still in its queue. -/
theorem lost_stop_iff (spawn : Spawn ε α)
    : spawn.Lost .stopped ↔ spawn.Lost .running ∨ spawn.stage = .queued := by
  cases stage : spawn.stage with
  | created mustCancel => cases mustCancel <;> simp [Spawn.Lost, stage]
  | _ => simp [Spawn.Lost, stage]

/-- No call is lost when a stopped loop is closed. -/
theorem lost_close_iff (spawn : Spawn ε α) : spawn.Lost .closed ↔ spawn.Lost .stopped := by
  cases stage : spawn.stage with
  | created mustCancel => cases mustCancel <;> simp [Spawn.Lost, stage]
  | _ => simp [Spawn.Lost, stage]

/-- A call is lost at exactly the steps that are not timely, by cases on the event. -/
theorem step_someLost_iff {event : Event ε α} (sound : Sound state)
    (stepped : step state event = some next)
    : SomeLost next ↔ SomeLost state ∨ ¬Timely state event := by
  cases move_of_step stepped with
  | spawns =>
      have blank := sound.fresh state.nextTaskId (Nat.le_refl _)
      refine (someLost_setSpawn state state.nextTaskId _).trans ?_
      have absent : ¬(state.spawns state.nextTaskId).Lost state.loop := by
        simp [blank, Spawn.blank, Spawn.Lost]
      have new : (Spawn.new state.loop : Spawn ε α).Lost state.loop
          ↔ ¬Timely state (.spawn : Event ε α) := by
        cases loop : state.loop <;> simp [Spawn.new, Spawn.Lost, Spawn.blank, Timely, loop]
      rw [new, or_comm]
      apply or_congr_left
      constructor
      · intro lost
        obtain ⟨other, _, lost⟩ := lost
        exact ⟨other, lost⟩
      · intro lost
        obtain ⟨other, lost⟩ := lost
        exact ⟨other, fun same => absent (same ▸ lost), lost⟩
  | @creates taskId running queued =>
      have before : ¬(state.spawns taskId).Lost state.loop := by
        simp [Spawn.Lost, queued, running]
      by_cases isOpen : state.group = .running
      · have same : ((state.spawns taskId).create state.group).Lost state.loop
            ↔ (state.spawns taskId).Lost state.loop := by
          simp [Spawn.create, isOpen, Spawn.Lost, queued, running]
        exact Transition.entered_of_met (someLost_setSpawn_of_iff same) isOpen
      · have lost : ((state.spawns taskId).create state.group).Lost state.loop := by
          simp [Spawn.create, isOpen, Spawn.Lost]
        simp only [someLost_setSpawn, lost, true_or, Timely, isOpen, not_false_eq_true, or_true]
  | @starts taskId mustCancel running created =>
      have same : ((state.spawns taskId).start mustCancel).Lost state.loop
          ↔ (state.spawns taskId).Lost state.loop := by
        cases mustCancel <;> simp [Spawn.start, Spawn.Lost, created]
      exact Transition.entered_of_met (someLost_setSpawn_of_iff same) trivial
  | endsInner running made pending =>
      exact Transition.entered_of_met (someLost_setSpawn_of_iff (lost_congr (by rfl))) trivial
  | @resumesWrapper taskId running awaits done =>
      have same : (state.spawns taskId).resumeWrapper.Lost state.loop
          ↔ (state.spawns taskId).Lost state.loop := by
        simp [Spawn.resumeWrapper, Spawn.Lost, awaits]
      exact Transition.entered_of_met (someLost_setSpawn_of_iff same) trivial
  | @transfers taskId ended future inFlight set =>
      have same : Spawn.Lost state.loop
            { state.spawns taskId with future, stage := .transferred }
          ↔ (state.spawns taskId).Lost state.loop := by
        simp [Spawn.Lost, inFlight]
      exact Transition.entered_of_met (someLost_setSpawn_of_iff same) trivial
  | aborts running isOpen =>
      simp only [SomeLost, State.abort, lost_abort_iff, exists_or, Timely, ne_eq, not_forall,
        not_not]
  | endsGroup running joined => exact Transition.entered_of_met Iff.rfl trivial
  | stops running finished =>
      simp only [SomeLost, lost_stop_iff, running, exists_or, Timely, ne_eq, not_forall, not_not]
  | closes stopped =>
      exact Transition.entered_of_met (by simp only [SomeLost, lost_close_iff, stopped]) trivial
  | cancelsCaller awaits =>
      exact Transition.entered_of_met (someLost_setSpawn_of_iff (lost_congr (by rfl))) trivial
  | @runsCancel taskId message cancels requests running queued =>
      have same : SomeLost (state.setSpawn taskId { state.spawns taskId with cancels })
          ↔ SomeLost state := someLost_setSpawn_of_iff (lost_congr rfl)
      exact Transition.entered_of_met same trivial
  | @resumes taskId spawn resumed =>
      have stage := ((sound.spawns taskId).resume resumed).2
      exact Transition.entered_of_met (someLost_setSpawn_of_iff (lost_congr stage)) trivial

/-- `call_soon_threadsafe()` did not raise. -/
def Spawn.Accepted (spawn : Spawn ε α) : Prop :=
  spawn.stage ≠ .unspawned ∧ spawn.stage ≠ .refused

/-- Once the loop has finished and nothing is in flight, every accepted call has its future
resolved exactly if every step of the run was timely. The proof follows the calls that are
lost, by induction on the events.
-/
theorem spawn_resolved_iff {events : List (Event ε α)} {final : State ε α}
    (reached : Transition.run step .initial events = some final)
    (finished : final.loop ≠ .running)
    (quiet : ∀ taskId ended, (final.spawns taskId).stage ≠ .transferring ended)
    : (∀ taskId,
        (final.spawns taskId).Accepted → (final.spawns taskId).future.done = true)
      ↔ Transition.Meets step Timely .initial events := by
  have sound := run_sound reached
  have lost : SomeLost final ↔ ¬Transition.Meets step Timely .initial events :=
    Transition.bad_iff_not_meets_of_good Timely
      (fun _ _ _ _ sound stepped => step_sound sound stepped)
      (fun _ _ _ _ sound stepped => step_someLost_iff sound stepped)
      sound_initial (fun ⟨_, lost⟩ => lost) reached
  rw [← not_not (a := Transition.Meets step Timely .initial events), ← lost]
  constructor
  · intro resolved someLost
    obtain ⟨taskId, lost⟩ := someLost
    have pending : (final.spawns taskId).stage ≠ .transferred := by
      intro same
      simp [Spawn.Lost, same] at lost
    apply pending
    apply (sound.spawns taskId).resolved.mp
    apply resolved
    constructor
    · intro same
      simp [Spawn.Lost, same] at lost
    · intro same
      simp [Spawn.Lost, same] at lost
  · intro noneLost taskId accepted
    apply (sound.spawns taskId).resolved.mpr
    have notLost : ¬(final.spawns taskId).Lost final.loop := fun lost => noneLost ⟨taskId, lost⟩
    have joined := sound.joined (sound.finished finished) taskId
    cases stage : (final.spawns taskId).stage with
    | unspawned => exact (accepted.1 stage).elim
    | refused => exact (accepted.2 stage).elim
    | queued => exact (notLost (by simpa [Spawn.Lost, stage] using finished)).elim
    | rejected => exact (notLost (by simp [Spawn.Lost, stage])).elim
    | created mustCancel => simp [stage, Stage.inGroup] at joined
    | skipped => exact (notLost (by simp [Spawn.Lost, stage])).elim
    | running => simp [stage, Stage.inGroup] at joined
    | transferring ended => exact (quiet taskId ended stage).elim
    | transferred => rfl

/-- A call that has returned before the manager exits. -/
theorem spawn_resolved_iff_returned
    : ∃ (events : List (Event String Nat)) (final : State String Nat),
        Transition.run step .initial events = some final
        ∧ final.loop = .closed
        ∧ (final.spawns 0).Accepted
        ∧ Transition.Meets step Timely .initial events := by
  have reached : Transition.run step (.initial : State String Nat)
      [.spawn, .create 0, .start 0, .innerEnds 0 (.success 7), .wrapperResumes 0, .transfer 0,
        .resume 0, .abort, .groupEnds, .stopLoop, .closeLoop]
      = some _ := rfl
  refine ⟨_, _, reached, rfl, ⟨by decide, by decide⟩, ?_⟩
  apply (spawn_resolved_iff reached (by decide) _).mp
  · intro taskId accepted
    match taskId with
    | 0 => rfl
    | _ + 1 => exact (accepted.1 rfl).elim
  · intro taskId ended inFlight
    match taskId with
    | 0 => cases inFlight
    | _ + 1 => cases inFlight

/-- The manager exits while `_create()` is queued, which then finds the group left: the call is
accepted, nothing is in flight, and its future stays pending.
-/
theorem spawn_hangs
    : ∃ (events : List (Event String Nat)) (final : State String Nat),
        Transition.run step .initial events = some final
        ∧ final.loop = .closed
        ∧ (∀ taskId ended, (final.spawns taskId).stage ≠ .transferring ended)
        ∧ (final.spawns 0).Accepted
        ∧ (final.spawns 0).future = .pending := by
  refine ⟨[.spawn, .abort, .groupEnds, .create 0, .stopLoop, .closeLoop], _, rfl, rfl, ?_,
    ⟨by decide, by decide⟩, rfl⟩
  intro taskId ended inFlight
  match taskId with
  | 0 => cases inFlight
  | _ + 1 => cases inFlight

end Aiodrive.ThreadManager
