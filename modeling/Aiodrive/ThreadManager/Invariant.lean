import Aiodrive.ThreadManager.Model

/-! What holds of every call of `ThreadManager.spawn()`, in its caller and in the thread, and of the
phases of the manager's exit.
-/

namespace Aiodrive.ThreadManager

variable {ε α : Type*} {state next : State ε α}

-----------------------------------------------------------------------------------------
-- What a step can do
-----------------------------------------------------------------------------------------

/-- The steps of the callers, the thread and the manager, with what each of them takes. -/
inductive Move (state : State ε α) : Event ε α → State ε α → Prop
  | spawns
    : Move state .spawn
        { state.setSpawn state.nextTaskId (.new state.loop) with
          nextTaskId := state.nextTaskId + 1 }
  | creates {taskId : Nat} (running : state.loop = .running)
    (queued : (state.spawns taskId).stage = .queued)
    : Move state (.create taskId)
        (state.setSpawn taskId ((state.spawns taskId).create state.group))
  | starts {taskId : Nat} {mustCancel : Bool} (running : state.loop = .running)
    (created : (state.spawns taskId).stage = .created mustCancel)
    : Move state (.start taskId)
        (state.setSpawn taskId ((state.spawns taskId).start mustCancel))
  | endsInner {taskId : Nat} {ended : FutureState ε α} (running : state.loop = .running)
    (made : (state.spawns taskId).stage.hasInner = true)
    (pending : (state.spawns taskId).inner.done = false)
    : Move state (.innerEnds taskId ended)
        (state.setSpawn taskId { state.spawns taskId with inner := ended })
  | resumesWrapper {taskId : Nat} (running : state.loop = .running)
    (awaits : (state.spawns taskId).stage = .running)
    (done : (state.spawns taskId).inner.done = true)
    : Move state (.wrapperResumes taskId)
        (state.setSpawn taskId (state.spawns taskId).resumeWrapper)
  | transfers {taskId : Nat} {ended future : FutureState ε α}
    (inFlight : (state.spawns taskId).stage = .transferring ended)
    (set : ended.transfer (state.spawns taskId).future = some future)
    : Move state (.transfer taskId)
        (state.setSpawn taskId { state.spawns taskId with future, stage := .transferred })
  | aborts (running : state.loop = .running) (isOpen : state.group = .running)
    : Move state .abort state.abort
  | endsGroup (running : state.loop = .running)
    (joined : ∀ taskId < state.nextTaskId, (state.spawns taskId).stage.inGroup = false)
    : Move state .groupEnds { state with group := .finished }
  | stops (running : state.loop = .running) (finished : state.group = .finished)
    : Move state .stopLoop { state with loop := .stopped }
  | closes (stopped : state.loop = .stopped)
    : Move state .closeLoop { state with loop := .closed }
  | cancelsCaller {taskId : Nat} {message : Option String} {cancelled : Bool}
    {interrupted : Option (Option String)} {delivered : Nat}
    (awaits : (state.spawns taskId).caller = .awaiting cancelled interrupted delivered)
    : Move state (.cancelCaller taskId message)
        (state.setSpawn taskId { state.spawns taskId with
          caller := .awaiting cancelled (interrupted.or (some message)) delivered })
  | runsCancel {taskId : Nat} {message : Option String} {cancels : List (Option String)}
    {requests : List (CancelRequest Nat)} (running : state.loop = .running)
    (queued : (state.spawns taskId).cancels = message :: cancels)
    : Move state (.cancelRuns taskId)
        { state.setSpawn taskId { state.spawns taskId with cancels } with requests }
  | resumes {taskId : Nat} {spawn : Spawn ε α}
    (resumed : (state.spawns taskId).resume state.loop = some spawn)
    : Move state (.resume taskId) (state.setSpawn taskId spawn)

theorem move_of_step {event : Event ε α} (stepped : step state event = some next)
    : Move state event next := by
  cases event with
  | spawn => exact Option.some.inj stepped ▸ .spawns
  | create taskId =>
      simp only [step] at stepped
      split at stepped
      · rename_i running queued
        exact Option.some.inj stepped ▸ .creates running queued
      · contradiction
  | start taskId =>
      simp only [step] at stepped
      split at stepped
      · rename_i running created
        exact Option.some.inj stepped ▸ .starts running created
      · contradiction
  | innerEnds taskId ended =>
      simp only [step, Option.ite_none_right_eq_some] at stepped
      obtain ⟨⟨running, made, pending, _⟩, same⟩ := stepped
      exact Option.some.inj same ▸ .endsInner running made (by simpa using pending)
  | wrapperResumes taskId =>
      simp only [step] at stepped
      split at stepped
      · rename_i running awaits
        simp only [Option.ite_none_right_eq_some] at stepped
        obtain ⟨done, same⟩ := stepped
        exact Option.some.inj same ▸ .resumesWrapper running awaits done
      · contradiction
  | transfer taskId =>
      simp only [step] at stepped
      split at stepped
      · rename_i inFlight
        obtain ⟨future, set, rfl⟩ := Option.map_eq_some_iff.mp stepped
        exact .transfers inFlight set
      · contradiction
  | abort =>
      simp only [step, Option.ite_none_right_eq_some] at stepped
      obtain ⟨⟨running, isOpen⟩, same⟩ := stepped
      exact Option.some.inj same ▸ .aborts running isOpen
  | groupEnds =>
      simp only [step, Option.ite_none_right_eq_some] at stepped
      obtain ⟨⟨running, _, joined⟩, same⟩ := stepped
      refine Option.some.inj same ▸ .endsGroup running (fun taskId created => ?_)
      simpa using List.all_eq_true.mp joined taskId (List.mem_range.mpr created)
  | stopLoop =>
      simp only [step, Option.ite_none_right_eq_some] at stepped
      obtain ⟨⟨running, finished⟩, same⟩ := stepped
      exact Option.some.inj same ▸ .stops running finished
  | closeLoop =>
      simp only [step, Option.ite_none_right_eq_some] at stepped
      obtain ⟨stopped, same⟩ := stepped
      exact Option.some.inj same ▸ .closes stopped
  | cancelCaller taskId message =>
      simp only [step] at stepped
      split at stepped
      · rename_i awaits
        exact Option.some.inj stepped ▸ .cancelsCaller awaits
      all_goals contradiction
  | cancelRuns taskId =>
      simp only [step] at stepped
      split at stepped
      · contradiction
      · rename_i running queued _
        exact Option.some.inj stepped ▸ .runsCancel running queued
      · contradiction
  | resume taskId =>
      obtain ⟨spawn, resumed, rfl⟩ := Option.map_eq_some_iff.mp stepped
      exact .resumes resumed

-----------------------------------------------------------------------------------------
-- One call
-----------------------------------------------------------------------------------------

/-- The future of a call is resolved by its transfer only, to the end of the inner task; the flag
`cancelled` of its caller is never set; and the caller ends with the future done, or refused.
-/
structure Spawn.Sound (spawn : Spawn ε α) : Prop where
  resolved : spawn.future.done = true ↔ spawn.stage = .transferred
  ended
    : ∀ state, spawn.stage = .transferring state → state = spawn.inner ∧ state.done = true
  carried : spawn.stage = .transferred → spawn.future = spawn.inner
  unset
    : ∀ cancelled interrupted delivered,
        spawn.caller = .awaiting cancelled interrupted delivered → cancelled = false
  exited
    : ∀ outcome delivered,
        spawn.caller = .exited (.ended outcome) delivered → spawn.future.done = true
  refused : ∀ delivered, spawn.caller = .exited .refused delivered → spawn.stage = .refused

theorem Spawn.sound_blank : (.blank : Spawn ε α).Sound where
  resolved := by simp [Spawn.blank]
  ended := by simp [Spawn.blank]
  carried := by simp [Spawn.blank]
  unset := by simp [Spawn.blank]
  exited := by simp [Spawn.blank]
  refused := by simp [Spawn.blank]

theorem Spawn.sound_new (loop : LoopPhase) : (Spawn.new loop : Spawn ε α).Sound := by
  unfold Spawn.new
  split
  · exact {
      resolved := by simp [Spawn.blank]
      ended := by simp
      carried := by simp
      unset := by simp
      exited := by simp
      refused := by simp
    }
  · exact {
      resolved := by simp [Spawn.blank]
      ended := by simp
      carried := by simp
      unset := by
        intro cancelled interrupted delivered same
        cases same
        rfl
      exited := by simp
      refused := by simp
    }

/-- A call that moves on in the thread, before its transfer has run. -/
theorem Spawn.Sound.toStage {spawn : Spawn ε α} (sound : spawn.Sound) (stage : Stage ε α)
    (registered : Bool) (accepted : spawn.stage ≠ .refused) (before : spawn.stage ≠ .transferred)
    (after : stage ≠ .transferred)
    (ended : ∀ state, stage = .transferring state → state = spawn.inner ∧ state.done = true)
    : Spawn.Sound { spawn with stage, registered } where
  resolved := iff_of_false (fun done => before (sound.resolved.mp done)) after
  ended := ended
  carried := fun transferred => (after transferred).elim
  unset := sound.unset
  exited := sound.exited
  refused := fun delivered exited => (accepted (sound.refused delivered exited)).elim

/-- `_create` makes the tasks of a queued call, or the inner one only. -/
theorem Spawn.Sound.create {spawn : Spawn ε α} (group : GroupPhase) (sound : spawn.Sound)
    (queued : spawn.stage = .queued)
    : (spawn.create group).Sound := by
  unfold Spawn.create
  apply sound.toStage _ _ (by simp [queued]) (by simp [queued])
  · split <;> simp
  · split <;> simp

/-- The first step of `create_task()` runs its coroutine, unless it was asked to cancel. -/
theorem Spawn.Sound.start {spawn : Spawn ε α} {mustCancel : Bool} (sound : spawn.Sound)
    (created : spawn.stage = .created mustCancel)
    : (spawn.start mustCancel).Sound := by
  unfold Spawn.start
  apply sound.toStage _ _ (by simp [created]) (by simp [created])
  · split <;> simp
  · split <;> simp

/-- The inner task ends before its end is transferred. -/
theorem Spawn.Sound.endInner {spawn : Spawn ε α} (sound : spawn.Sound)
    (pending : spawn.inner.done = false) (ended : FutureState ε α)
    : Spawn.Sound { spawn with inner := ended } where
  resolved := sound.resolved
  ended := by
    intro state inFlight
    obtain ⟨rfl, done⟩ := sound.ended state inFlight
    simp [pending] at done
  carried := by
    intro transferred
    have done := sound.resolved.mpr transferred
    simp [sound.carried transferred, pending] at done
  unset := sound.unset
  exited := sound.exited
  refused := sound.refused

/-- What `create_task()` transfers is the end of the inner task. -/
theorem Spawn.Sound.resumeWrapper {spawn : Spawn ε α} (sound : spawn.Sound)
    (awaits : spawn.stage = .running) (done : spawn.inner.done = true)
    : spawn.resumeWrapper.Sound := by
  unfold Spawn.resumeWrapper
  apply sound.toStage _ _ (by simp [awaits]) (by simp [awaits]) (by simp)
  intro ended same
  cases same
  exact ⟨rfl, done⟩

/-- A request to cancel the caller leaves its flag as it is. -/
theorem Spawn.Sound.interrupt {spawn : Spawn ε α} {cancelled : Bool}
    {interrupted : Option (Option String)} {delivered : Nat}
    (next : Option (Option String)) (sound : spawn.Sound)
    (awaits : spawn.caller = .awaiting cancelled interrupted delivered)
    : Spawn.Sound { spawn with caller := .awaiting cancelled next delivered } := by
  refine ⟨sound.resolved, sound.ended, sound.carried, ?_, by simp, by simp⟩
  intro flag _ _ same
  cases same
  exact sound.unset _ _ _ awaits

/-- The transfer resolves the future, which is still pending. -/
theorem Spawn.Sound.transfer {spawn : Spawn ε α} {ended future : FutureState ε α}
    (sound : spawn.Sound) (inFlight : spawn.stage = .transferring ended)
    (set : ended.transfer spawn.future = some future)
    : Spawn.Sound { spawn with future, stage := .transferred } := by
  obtain ⟨inner, isDone⟩ := sound.ended ended inFlight
  rw [FutureState.transfer_of_done isDone, Option.ite_none_left_eq_some] at set
  obtain rfl := Option.some.inj set.2
  exact {
    resolved := iff_of_true isDone rfl
    ended := by simp
    carried := fun _ => inner
    unset := sound.unset
    exited := fun _ _ _ => isDone
    refused := by
      intro delivered exited
      simp [sound.refused delivered exited] at inFlight
  }

/-- The abort of the group touches neither the future nor the caller. -/
theorem Spawn.Sound.abort {spawn : Spawn ε α} (sound : spawn.Sound) : spawn.abort.Sound := by
  unfold Spawn.abort
  split
  · rename_i created
    exact sound.toStage _ _ (by simp [created]) (by simp [created]) (by simp) (by simp)
  · exact sound

/-- A caller that resumes ends with the future done, or awaits it again. -/
theorem Spawn.Sound.resume {loop : LoopPhase} {spawn after : Spawn ε α} (sound : spawn.Sound)
    (resumed : spawn.resume loop = some after)
    : after.Sound ∧ after.stage = spawn.stage := by
  unfold Spawn.resume at resumed
  split at resumed
  · rename_i cancelled message delivered awaits
    split at resumed
    · rename_i done
      obtain rfl := Option.some.inj resumed
      exact ⟨⟨sound.resolved, sound.ended, sound.carried, by simp, fun _ _ _ => done, by simp⟩,
        rfl⟩
    · obtain rfl := Option.some.inj resumed
      refine ⟨⟨sound.resolved, sound.ended, sound.carried, ?_, by simp, by simp⟩, rfl⟩
      intro own interrupted count same
      cases same
      exact sound.unset _ _ _ awaits
  · split at resumed
    · rename_i done
      obtain rfl := Option.some.inj resumed
      exact ⟨⟨sound.resolved, sound.ended, sound.carried, by simp, fun _ _ _ => done, by simp⟩,
        rfl⟩
    · contradiction
  all_goals contradiction

-----------------------------------------------------------------------------------------
-- The whole manager
-----------------------------------------------------------------------------------------

/-- Every call is sound, the group has no task left once it is left, and the loop runs at least
until then.
-/
structure Sound (state : State ε α) : Prop where
  fresh : ∀ taskId, state.nextTaskId ≤ taskId → state.spawns taskId = .blank
  spawns : ∀ taskId, (state.spawns taskId).Sound
  finished : state.loop ≠ .running → state.group = .finished
  joined
    : state.group = .finished → ∀ taskId, (state.spawns taskId).stage.inGroup = false

theorem sound_initial : Sound (.initial : State ε α) where
  fresh := fun _ _ => rfl
  spawns := fun _ => Spawn.sound_blank
  finished := by simp [State.initial]
  joined := by simp [State.initial]

/-- A step of one call that has begun. -/
theorem Sound.setSpawn (sound : Sound state) {taskId : Nat} {spawn : Spawn ε α}
    (begun : state.spawns taskId ≠ .blank) (own : spawn.Sound)
    (joined : state.group = .finished → spawn.stage.inGroup = false)
    : Sound (state.setSpawn taskId spawn) where
  fresh := by
    intro other new
    have different : other ≠ taskId := by
      intro same
      subst same
      exact begun (sound.fresh other new)
    exact (Function.update_of_ne different ..).trans (sound.fresh other new)
  spawns := by
    intro other
    by_cases same : other = taskId
    · subst same
      simpa [State.setSpawn] using own
    · simpa [State.setSpawn, same] using sound.spawns other
  finished := sound.finished
  joined := by
    intro finished other
    by_cases same : other = taskId
    · subst same
      simpa [State.setSpawn] using joined finished
    · simpa [State.setSpawn, same] using sound.joined finished other

/-- A call that is known to the thread has begun. -/
theorem begun_of_stage {taskId : Nat} (stage : (state.spawns taskId).stage ≠ .unspawned)
    : state.spawns taskId ≠ .blank :=
  fun blank => stage (by rw [blank]; rfl)

/-- A new call, which is not in the group. -/
theorem Sound.spawn (sound : Sound state)
    : Sound { state.setSpawn state.nextTaskId (.new state.loop) with
        nextTaskId := state.nextTaskId + 1 } := by
  have stage : (Spawn.new state.loop : Spawn ε α).stage.inGroup = false := by
    unfold Spawn.new
    split <;> rfl
  refine ⟨?_, ?_, sound.finished, ?_⟩
  · intro other new
    have different : other ≠ state.nextTaskId := Nat.ne_of_gt new
    exact (Function.update_of_ne different ..).trans
      (sound.fresh other (Nat.le_of_succ_le new))
  · intro other
    by_cases same : other = state.nextTaskId
    · simpa [State.setSpawn, same] using Spawn.sound_new state.loop
    · simpa [State.setSpawn, same] using sound.spawns other
  · intro finished other
    by_cases same : other = state.nextTaskId
    · simpa [State.setSpawn, same] using stage
    · simpa [State.setSpawn, same] using sound.joined finished other

/-- The abort of a group that is open, so while the loop runs. -/
theorem Sound.abort (sound : Sound state) (running : state.loop = .running)
    : Sound state.abort := by
  refine ⟨?_, fun taskId => (sound.spawns taskId).abort, ?_, ?_⟩
  · intro taskId new
    simp only [State.abort, sound.fresh taskId new]
    rfl
  · exact fun stopped => (stopped running).elim
  · intro finished
    contradiction

/-- The group is left once no call has a task in it. -/
theorem Sound.endGroup (sound : Sound state)
    (joined : ∀ taskId < state.nextTaskId, (state.spawns taskId).stage.inGroup = false)
    : Sound { state with group := .finished } := by
  refine ⟨sound.fresh, sound.spawns, fun _ => rfl, ?_⟩
  intro _ taskId
  by_cases created : taskId < state.nextTaskId
  · exact joined taskId created
  · simp only [sound.fresh taskId (Nat.le_of_not_lt created)]
    rfl

/-- A callback of `_cancel` has run. -/
theorem Sound.runCancel {taskId : Nat} {message : Option String}
    {cancels : List (Option String)} (requests : List (CancelRequest Nat)) (sound : Sound state)
    (queued : (state.spawns taskId).cancels = message :: cancels)
    : Sound { state.setSpawn taskId { state.spawns taskId with cancels } with requests } := by
  have updated : Sound (state.setSpawn taskId { state.spawns taskId with cancels }) := by
    apply sound.setSpawn
    · intro blank
      simp [blank, Spawn.blank] at queued
    · have own := sound.spawns taskId
      exact ⟨own.resolved, own.ended, own.carried, own.unset, own.exited, own.refused⟩
    · exact fun finished => sound.joined finished taskId
  exact ⟨updated.fresh, updated.spawns, updated.finished, updated.joined⟩

/-- One step keeps the invariant, by cases on the event. -/
theorem step_sound {event : Event ε α} (sound : Sound state)
    (stepped : step state event = some next)
    : Sound next := by
  cases move_of_step stepped with
  | spawns => exact sound.spawn
  | @creates taskId running queued =>
      apply sound.setSpawn (begun_of_stage (by simp [queued]))
      · exact (sound.spawns taskId).create _ queued
      · intro finished
        simp [Spawn.create, finished, Stage.inGroup]
  | @starts taskId mustCancel running created =>
      apply sound.setSpawn (begun_of_stage (by simp [created]))
      · exact (sound.spawns taskId).start created
      · intro finished
        have absent := sound.joined finished taskId
        simp [created, Stage.inGroup] at absent
  | @endsInner taskId ended running made pending =>
      apply sound.setSpawn
      · intro blank
        simp [blank, Spawn.blank, Stage.hasInner] at made
      · exact (sound.spawns taskId).endInner pending ended
      · exact fun finished => sound.joined finished taskId
  | @resumesWrapper taskId running awaits done =>
      apply sound.setSpawn (begun_of_stage (by simp [awaits]))
      · exact (sound.spawns taskId).resumeWrapper awaits done
      · exact fun _ => rfl
  | @transfers taskId ended future inFlight set =>
      apply sound.setSpawn (begun_of_stage (by simp [inFlight]))
      · exact (sound.spawns taskId).transfer inFlight set
      · exact fun _ => rfl
  | aborts running isOpen => exact sound.abort running
  | endsGroup running joined => exact sound.endGroup joined
  | stops running finished =>
      exact ⟨sound.fresh, sound.spawns, fun _ => finished, sound.joined⟩
  | closes stopped =>
      have finished := sound.finished (by simp [stopped])
      exact ⟨sound.fresh, sound.spawns, fun _ => finished, sound.joined⟩
  | @cancelsCaller taskId message cancelled interrupted delivered awaits =>
      apply sound.setSpawn
      · intro blank
        simp [blank, Spawn.blank] at awaits
      · exact (sound.spawns taskId).interrupt _ awaits
      · exact fun finished => sound.joined finished taskId
  | @runsCancel taskId message cancels requests running queued =>
      exact sound.runCancel requests queued
  | @resumes taskId spawn resumed =>
      obtain ⟨own, stage⟩ := (sound.spawns taskId).resume resumed
      apply sound.setSpawn
      · intro blank
        simp [blank, Spawn.blank, Spawn.resume] at resumed
      · exact own
      · exact fun finished => stage ▸ sound.joined finished taskId

theorem run_sound {events : List (Event ε α)} {final : State ε α}
    (reached : Transition.run step .initial events = some final)
    : Sound final :=
  Transition.run_preserves (fun _ _ _ => step_sound) sound_initial reached

end Aiodrive.ThreadManager
