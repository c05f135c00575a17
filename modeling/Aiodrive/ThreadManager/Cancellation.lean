import Aiodrive.ThreadManager.Invariant

/-! Cancellations of the caller of `spawn()`. They are forwarded to the thread, and forgotten: the
local flag `cancelled` that the end of `spawn()` looks at is never set.
-/

namespace Aiodrive.ThreadManager

variable {ε α : Type*} {state next : State ε α} {taskId : Nat} {early late : Prop}

/-- The call comes past the closing of the loop of the manager. -/
def RefusedAt (taskId : Nat) (state : State ε α) (event : Event ε α) : Prop :=
  event = .spawn ∧ state.nextTaskId = taskId ∧ state.loop = .closed

/-- A `CancelledError` is thrown at the `await` of the caller, with its future done or not. -/
def ThrownAt (done : Bool) (taskId : Nat) (state : State ε α) (event : Event ε α) : Prop :=
  event = .resume taskId
  ∧ (state.spawns taskId).future.done = done
  ∧ ∃ cancelled message delivered,
      (state.spawns taskId).caller = .awaiting cancelled (some message) delivered

/-- What the caller makes of the errors thrown at its `await` before and after the end of its
future: it counts the former, and ends by one of the latter or as its future.
-/
def Spawn.Heard (early late : Prop) (spawn : Spawn ε α) : Prop :=
  match spawn.caller with
  | .absent => ¬early ∧ ¬late
  | .awaiting _ _ delivered => (early ↔ 0 < delivered) ∧ ¬late
  | .exited .refused delivered => delivered = 0
  | .exited (.ended outcome) delivered =>
      late ∧ outcome = .raised .cancelledError
      ∨ ¬late ∧ (early ↔ 0 < delivered) ∧ outcome = finish false spawn.future

-----------------------------------------------------------------------------------------
-- One step
-----------------------------------------------------------------------------------------

/-- The event may change the caller of the call, its future, or the end of its inner task. -/
def Event.Concerns (taskId : Nat) (state : State ε α) : Event ε α → Prop
  | .spawn => state.nextTaskId = taskId
  | .innerEnds own _ | .transfer own | .cancelCaller own _ | .resume own => own = taskId
  | .create _ | .start _ | .wrapperResumes _ | .abort | .groupEnds | .stopLoop | .closeLoop
  | .cancelRuns _ => False

/-- What the results read of a call is the same in another. -/
structure Spawn.Alike (spawn other : Spawn ε α) : Prop where
  refused : spawn.stage = .refused ↔ other.stage = .refused
  inner : spawn.inner = other.inner
  caller : spawn.caller = other.caller
  future : spawn.future = other.future

theorem Spawn.Alike.refl (spawn : Spawn ε α) : spawn.Alike spawn := ⟨Iff.rfl, rfl, rfl, rfl⟩

theorem spawns_setSpawn (state : State ε α) (own taskId : Nat) (spawn : Spawn ε α)
    : (state.setSpawn own spawn).spawns taskId
      = if taskId = own then spawn else state.spawns taskId :=
  Function.update_apply ..

theorem spawns_setSpawn_self (state : State ε α) (taskId : Nat) (spawn : Spawn ε α)
    : (state.setSpawn taskId spawn).spawns taskId = spawn :=
  Function.update_self ..

/-- A call that moves on in the thread is alike for its caller. -/
theorem alike_setSpawn {own : Nat} {spawn : Spawn ε α}
    (alike : taskId = own → spawn.Alike (state.spawns own))
    : ((state.setSpawn own spawn).spawns taskId).Alike (state.spawns taskId) := by
  rw [spawns_setSpawn]
  split
  · rename_i same
    exact same ▸ alike same
  · exact .refl _

theorem Spawn.abort_alike (spawn : Spawn ε α) : spawn.abort.Alike spawn := by
  unfold Spawn.abort
  split <;> rename_i stage
  · exact ⟨by simp [stage], rfl, rfl, rfl⟩
  · exact .refl spawn

/-- A step of another call, or in the thread. -/
theorem alike_of_apart {event : Event ε α} (apart : ¬event.Concerns taskId state)
    (stepped : step state event = some next)
    : (next.spawns taskId).Alike (state.spawns taskId) := by
  cases move_of_step stepped with
  | spawns => exact alike_setSpawn (fun same => (apart same.symm).elim)
  | creates running queued =>
      refine alike_setSpawn (fun _ => ⟨?_, rfl, rfl, rfl⟩)
      simp only [Spawn.create, queued, reduceCtorEq, iff_false]
      split <;> simp
  | starts running created =>
      refine alike_setSpawn (fun _ => ⟨?_, rfl, rfl, rfl⟩)
      simp only [Spawn.start, created, reduceCtorEq, iff_false]
      split <;> simp
  | endsInner running made pending => exact alike_setSpawn (fun same => (apart same.symm).elim)
  | resumesWrapper running awaits done =>
      refine alike_setSpawn (fun _ => ⟨?_, rfl, rfl, rfl⟩)
      simp [Spawn.resumeWrapper, awaits]
  | transfers inFlight set => exact alike_setSpawn (fun same => (apart same.symm).elim)
  | aborts running isOpen => exact (state.spawns taskId).abort_alike
  | endsGroup running joined => exact .refl _
  | stops running finished => exact .refl _
  | closes stopped => exact .refl _
  | cancelsCaller awaits => exact alike_setSpawn (fun same => (apart same.symm).elim)
  | @runsCancel own message cancels requests running queued =>
      have alike : Spawn.Alike { state.spawns own with cancels } (state.spawns own) :=
        ⟨Iff.rfl, rfl, rfl, rfl⟩
      exact alike_setSpawn (fun _ => alike)
  | resumes resumed => exact alike_setSpawn (fun same => (apart same.symm).elim)

/-- A call is refused at its start only. -/
theorem stage_step_iff {event : Event ε α} (sound : Sound state)
    (stepped : step state event = some next)
    : (next.spawns taskId).stage = .refused
      ↔ (state.spawns taskId).stage = .refused ∨ RefusedAt taskId state event := by
  by_cases concerns : event.Concerns taskId state
  · cases move_of_step stepped with
    | spawns =>
        obtain rfl := concerns
        have blank := sound.fresh state.nextTaskId (Nat.le_refl _)
        simp only [spawns_setSpawn_self, blank, Spawn.blank, RefusedAt, Spawn.new]
        cases state.loop <;> simp
    | endsInner running made pending =>
        obtain rfl := concerns
        simp [spawns_setSpawn_self, RefusedAt]
    | transfers inFlight set =>
        obtain rfl := concerns
        simp [spawns_setSpawn_self, RefusedAt, inFlight]
    | cancelsCaller awaits =>
        obtain rfl := concerns
        simp [spawns_setSpawn_self, RefusedAt]
    | @resumes own spawn resumed =>
        obtain rfl := concerns
        simp [spawns_setSpawn_self, RefusedAt, ((sound.spawns own).resume resumed).2]
    | _ => exact concerns.elim
  · refine (alike_of_apart concerns stepped).refused.trans (or_iff_left ?_).symm
    rintro ⟨rfl, same, -⟩
    exact concerns same

/-- A caller that resumes leaves its inner task and its future alone. -/
theorem resume_frame {loop : LoopPhase} {spawn after : Spawn ε α}
    (resumed : spawn.resume loop = some after)
    : after.inner = spawn.inner ∧ after.future = spawn.future := by
  unfold Spawn.resume at resumed
  split at resumed
  · split at resumed
    · exact Option.some.inj resumed ▸ ⟨rfl, rfl⟩
    · exact Option.some.inj resumed ▸ ⟨rfl, rfl⟩
  · split at resumed
    · exact Option.some.inj resumed ▸ ⟨rfl, rfl⟩
    · contradiction
  all_goals contradiction

/-- The inner task returns by its own end only. -/
theorem inner_step_iff {event : Event ε α} (sound : Sound state)
    (stepped : step state event = some next) (value : α)
    : (next.spawns taskId).inner = .success value
      ↔ (state.spawns taskId).inner = .success value
        ∨ event = .innerEnds taskId (.success value) := by
  by_cases concerns : event.Concerns taskId state
  · cases move_of_step stepped with
    | spawns =>
        obtain rfl := concerns
        have blank := sound.fresh state.nextTaskId (Nat.le_refl _)
        simp only [spawns_setSpawn_self, blank, Spawn.blank, Spawn.new]
        split <;> simp
    | @endsInner own ended running made pending =>
        obtain rfl := concerns
        have before : (state.spawns own).inner ≠ .success value := by
          intro succeeded
          simp [succeeded] at pending
        simp [spawns_setSpawn_self, before]
    | transfers inFlight set =>
        obtain rfl := concerns
        simp [spawns_setSpawn_self]
    | cancelsCaller awaits =>
        obtain rfl := concerns
        simp [spawns_setSpawn_self]
    | resumes resumed =>
        obtain rfl := concerns
        simp [spawns_setSpawn_self, resume_frame resumed]
    | _ => exact concerns.elim
  · rw [(alike_of_apart concerns stepped).inner]
    refine (or_iff_left ?_).symm
    rintro rfl
    exact concerns rfl

/-- What the caller heard depends on itself and its future only. -/
theorem heard_congr {spawn other : Spawn ε α} (caller : spawn.caller = other.caller)
    (future : spawn.future = other.future)
    : spawn.Heard early late ↔ other.Heard early late := by
  simp only [Spawn.Heard, caller, future]

/-- A caller that resumes counts the error that is thrown, or ends. -/
theorem Spawn.Heard.resume {loop : LoopPhase} {spawn after : Spawn ε α}
    (heard : spawn.Heard early late) (sound : spawn.Sound)
    (resumed : spawn.resume loop = some after)
    : after.Heard
        (early
          ∨ spawn.future.done = false
            ∧ ∃ cancelled message delivered,
                spawn.caller = .awaiting cancelled (some message) delivered)
        (late
          ∨ spawn.future.done = true
            ∧ ∃ cancelled message delivered,
                spawn.caller = .awaiting cancelled (some message) delivered) := by
  unfold Spawn.resume at resumed
  split at resumed
  · rename_i cancelled message delivered awaits
    simp only [Spawn.Heard, awaits] at heard
    split at resumed
    · rename_i done
      obtain rfl := Option.some.inj resumed
      simp [Spawn.Heard, done, awaits]
    · rename_i pending
      obtain rfl := Option.some.inj resumed
      simp [Spawn.Heard, pending, awaits, heard.2]
  · rename_i cancelled delivered awaits
    simp only [Spawn.Heard, awaits] at heard
    split at resumed
    · obtain rfl := Option.some.inj resumed
      -- The flag `cancelled` is never set
      obtain rfl := sound.unset _ _ _ awaits
      simp [Spawn.Heard, awaits, heard]
    · contradiction
  all_goals contradiction

theorem heard_step {event : Event ε α} (sound : Sound state)
    (heard : (state.spawns taskId).Heard early late)
    (stepped : step state event = some next)
    : (next.spawns taskId).Heard (early ∨ ThrownAt false taskId state event)
        (late ∨ ThrownAt true taskId state event) := by
  -- Nothing is thrown by an event of another kind
  have quiet (other : event ≠ .resume taskId) (done : Bool) : ¬ThrownAt done taskId state event :=
    fun thrown => other thrown.1
  have kept (other : event ≠ .resume taskId) (still : (next.spawns taskId).Heard early late)
      : (next.spawns taskId).Heard (early ∨ ThrownAt false taskId state event)
          (late ∨ ThrownAt true taskId state event) := by
    simpa only [quiet other, or_false] using still
  by_cases concerns : event.Concerns taskId state
  · cases move_of_step stepped with
    | spawns =>
        obtain rfl := concerns
        have blank := sound.fresh state.nextTaskId (Nat.le_refl _)
        refine kept (by simp) ?_
        simp only [blank, Spawn.blank, Spawn.Heard] at heard
        simp only [spawns_setSpawn_self, Spawn.new]
        split <;> simp [Spawn.Heard, heard]
    | endsInner running made pending =>
        obtain rfl := concerns
        exact kept (by simp) ((heard_congr (by rw [spawns_setSpawn_self])
          (by rw [spawns_setSpawn_self])).mpr heard)
    | @transfers own ended future inFlight set =>
        obtain rfl := concerns
        refine kept (by simp) ?_
        have pending : (state.spawns own).future.done ≠ true := by
          intro done
          simp [(sound.spawns own).resolved.mp done] at inFlight
        simp only [spawns_setSpawn_self]
        simp only [Spawn.Heard] at heard ⊢
        split at heard <;> rename_i caller
        · simpa only [caller] using heard
        · simpa only [caller] using heard
        · simpa only [caller] using heard
        · exact (pending ((sound.spawns own).exited _ _ caller)).elim
    | cancelsCaller awaits =>
        obtain rfl := concerns
        refine kept (by simp) ?_
        simp only [Spawn.Heard, awaits] at heard
        simpa only [spawns_setSpawn_self, Spawn.Heard] using heard
    | @resumes own spawn resumed =>
        obtain rfl := concerns
        rw [spawns_setSpawn_self]
        simpa only [ThrownAt, true_and] using heard.resume (sound.spawns own) resumed
    | _ => exact concerns.elim
  · obtain ⟨-, -, caller, future⟩ := alike_of_apart concerns stepped
    refine kept ?_ ((heard_congr caller future).mpr heard)
    rintro rfl
    exact concerns rfl

-----------------------------------------------------------------------------------------
-- Runs
-----------------------------------------------------------------------------------------

/-- What a call looks like after a run, for the events so far. -/
structure Traced (taskId : Nat) (past : List (Event ε α)) (state : State ε α) : Prop where
  reached : Transition.run step .initial past = some state
  refused
    : (state.spawns taskId).stage = .refused
      ↔ Transition.Took step (RefusedAt taskId) .initial past
  returned
    : ∀ value,
        (state.spawns taskId).inner = .success value ↔ .innerEnds taskId (.success value) ∈ past
  heard
    : (state.spawns taskId).Heard (Transition.Took step (ThrownAt false taskId) .initial past)
        (Transition.Took step (ThrownAt true taskId) .initial past)

/-- Every run traces its calls, by induction on the events. -/
theorem run_traced {events : List (Event ε α)} {final : State ε α} (taskId : Nat)
    (reached : Transition.run step .initial events = some final)
    : Traced taskId events final := by
  refine Transition.run_preserves_history (P := fun past state => Traced taskId past state)
    ?_ ?_ reached
  · intro past state event next traced stepped
    have sound := run_sound traced.reached
    refine ⟨Transition.run_concat traced.reached stepped, ?_, fun value => ?_, ?_⟩
    · rw [stage_step_iff sound stepped, traced.refused, Transition.took_concat_iff traced.reached]
    · rw [inner_step_iff sound stepped, traced.returned, List.mem_append, List.mem_singleton,
        eq_comm (a := event)]
    · have heard := heard_step sound traced.heard stepped
      simpa only [Transition.took_concat_iff traced.reached] using heard
  · exact {
      reached := rfl
      refused := by simp [State.initial, Spawn.blank, Transition.not_took_nil]
      returned := by simp [State.initial, Spawn.blank]
      heard := by simp [State.initial, Spawn.blank, Spawn.Heard, Transition.not_took_nil]
    }

theorem finish_eq_returned_iff (future : FutureState ε α) (value : α)
    : finish false future = .returned value ↔ future = .success value := by
  cases future <;> simp [finish, FutureState.result]

/-- `spawn()` ends with its future done, and does not return after a `CancelledError` was thrown in
its caller, exactly if it was called before the loop of the manager was closed and, where its
awaitable returns a value and such an error was thrown while the future was pending, another
one was thrown once that was done. The proof follows what the caller heard.
-/
theorem spawn_keeps_cancellation_iff {events : List (Event ε α)} {final : State ε α}
    {exit : Exit ε α} {delivered : Nat}
    (reached : Transition.run step .initial events = some final)
    (exited : (final.spawns taskId).caller = .exited exit delivered)
    : ((final.spawns taskId).future.done = true
        ∧ (0 < delivered → ∀ value, exit ≠ .ended (.returned value)))
      ↔ ¬Transition.Took step (RefusedAt taskId) .initial events
        ∧ ((∃ value, .innerEnds taskId (.success value) ∈ events)
          → Transition.Took step (ThrownAt false taskId) .initial events
          → Transition.Took step (ThrownAt true taskId) .initial events) := by
  have sound := (run_sound reached).spawns taskId
  have traced := run_traced taskId reached
  have heard := traced.heard
  simp only [Spawn.Heard, exited] at heard
  rw [← traced.refused]
  cases exit with
  | refused =>
      have refused := sound.refused delivered exited
      refine iff_of_false (fun kept => ?_) (fun kept => kept.1 refused)
      simp [sound.resolved.mp kept.1] at refused
  | ended outcome =>
      have done := sound.exited outcome delivered exited
      have transferred := sound.resolved.mp done
      simp only [done, true_and, transferred, reduceCtorEq, not_false_eq_true, ne_eq,
        Exit.ended.injEq, ← traced.returned]
      rcases heard with ⟨late, rfl⟩ | ⟨notLate, early, rfl⟩
      · simp [late]
      · simp only [notLate, early, finish_eq_returned_iff, sound.carried transferred, imp_false]
        constructor
        · rintro kept ⟨value, returned⟩ positive
          exact kept positive value returned
        · intro kept positive value returned
          exact kept ⟨value, returned⟩ positive

/-- The caller is cancelled before and after the awaitable has returned a value. -/
def cancelledTwice : List (Event String Nat) :=
  [.spawn, .create 0, .start 0, .cancelCaller 0 (some "stop"), .resume 0, .cancelRuns 0,
    .innerEnds 0 (.success 7), .wrapperResumes 0, .transfer 0, .cancelCaller 0 none, .resume 0]

theorem spawn_keeps_cancellation_twice
    : ∃ final : State String Nat,
        Transition.run step .initial cancelledTwice = some final
        ∧ (final.spawns 0).caller = .exited (.ended (.raised .cancelledError)) 2
        ∧ final.requests = [{ task := 0, message := some "stop" }]
        ∧ Transition.Took step (ThrownAt false 0) .initial cancelledTwice
        ∧ Transition.Took step (ThrownAt true 0) .initial cancelledTwice := by
  have ⟨final, reached, exited, done, requests⟩
      : ∃ final : State String Nat,
          Transition.run step .initial cancelledTwice = some final
          ∧ (final.spawns 0).caller = .exited (.ended (.raised .cancelledError)) 2
          ∧ (final.spawns 0).future.done = true
          ∧ final.requests = [{ task := 0, message := some "stop" }] :=
    ⟨_, rfl, rfl, rfl, rfl⟩
  have early : Transition.Took step (ThrownAt false 0) .initial cancelledTwice :=
    ⟨[.spawn, .create 0, .start 0, .cancelCaller 0 (some "stop")], .resume 0, _, _, rfl, rfl, rfl,
      rfl, _, _, _, rfl⟩
  obtain ⟨-, late⟩ := (spawn_keeps_cancellation_iff reached exited).mp ⟨done, by simp⟩
  exact ⟨final, reached, exited, requests, early, late ⟨7, by simp [cancelledTwice]⟩ early⟩

/-- The caller is cancelled, and the awaitable suppresses the cancellation and returns a value. -/
theorem spawn_swallows_cancellation
    : ∃ (events : List (Event String Nat)) (final : State String Nat),
        Transition.run step .initial events = some final
        ∧ (final.spawns 0).caller = .exited (.ended (.returned 7)) 1 :=
  ⟨[.spawn, .create 0, .start 0, .cancelCaller 0 none, .resume 0, .cancelRuns 0,
    .innerEnds 0 (.success 7), .wrapperResumes 0, .transfer 0, .resume 0], _, rfl, rfl⟩

end Aiodrive.ThreadManager
