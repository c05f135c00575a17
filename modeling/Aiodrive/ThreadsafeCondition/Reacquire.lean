import Aiodrive.ThreadsafeCondition.Wait

/-! What the exits of `wait()` and `wait_sync()` owe: the lock. The acquisition in the `finally`
gets it unless a cancellation goes through the shield, and then the client leaves its `with`
statement with a release of a lock that it does not own.
-/

namespace Aiodrive.ThreadsafeLock

variable {κ : Type*} {state next : State κ}

-----------------------------------------------------------------------------------------
-- An acquisition that nothing cancels
-----------------------------------------------------------------------------------------

/-- The client is on its way to the lock, and is not cancelled. -/
def State.Acquires (state : State κ) (client : κ) : Prop :=
  match state.clients client with
  | .entering | .syncWaiting | .syncTaken => True
  | .asyncWaiting future mustCancel =>
      mustCancel = false ∧ state.futures future ≠ .cancelled
  | .idle | .holding => False

variable [DecidableEq κ]

/-- A step of another client or of a loop does not cancel the future of a client. -/
theorem Sound.not_cancelled_step (sound : Sound state) {event : Event κ} {client : κ}
    {future : Nat} {mustCancel : Bool} (stepped : step state event = some next)
    (spared : event.client? ≠ some client)
    (waits : state.clients client = .asyncWaiting future mustCancel)
    (intact : state.futures future ≠ .cancelled)
    : next.futures future ≠ .cancelled := by
  cases move_of_step stepped with
  | acquiresSync =>
      unfold State.acquireSync
      split <;> exact intact
  | acquiresAsync =>
      unfold State.acquireAsync
      split <;> exact intact
  | releases =>
      rw [State.futures_setClient]
      unfold State.releaseAsync
      split <;> exact intact
  | @setsResult other =>
      unfold State.setResult
      simp only
      split
      · exact intact
      · by_cases same : future = other
        · simp [same]
        · simpa [same] using intact
  | @cancels other cancelled _ otherWaits =>
      have different : future ≠ cancelled := by
        rintro rfl
        exact spared (congrArg some (sound.distinct _ _ _ _ _ otherWaits waits))
      unfold State.cancel
      split
      · exact intact
      · simpa [different] using intact
  | enters | takesSync | lowersCount | closesLoop | resumesCancelled | resumesHolding =>
      exact intact

theorem State.Acquires.step {event : Event κ} {client : κ} (acquires : state.Acquires client)
    (sound : Sound state) (stepped : step state event = some next)
    (spared : event.client? ≠ some client)
    : next.Acquires client := by
  unfold State.Acquires at acquires ⊢
  rw [step_clients_of_ne stepped spared]
  cases place : state.clients client with
  | asyncWaiting future mustCancel =>
      simp only [place] at acquires
      exact ⟨acquires.1, sound.not_cancelled_step stepped spared place acquires.2⟩
  | entering | syncWaiting | syncTaken => trivial
  | idle | holding => simp [place] at acquires

theorem acquires_acquireSync {client : κ}
    (stepped : step state (.acquireSync client) = some next)
    : next.Acquires client := by
  cases move_of_step stepped with
  | acquiresSync =>
      unfold State.acquireSync
      split <;> simp [State.Acquires]

/-- The future of a new waiter is fresh. -/
theorem Sound.acquires_acquireAsync (sound : Sound state) {client : κ} {loop : Nat}
    (stepped : step state (.acquireAsync client loop) = some next)
    : next.Acquires client := by
  have pending := sound.fresh state.futureCount (Nat.le_refl _)
  cases move_of_step stepped with
  | acquiresAsync =>
      unfold State.acquireAsync
      split <;> simp [State.Acquires, pending]

end Aiodrive.ThreadsafeLock

namespace Aiodrive.ConditionWait

variable {κ : Type*}

-----------------------------------------------------------------------------------------
-- What the waits owe
-----------------------------------------------------------------------------------------

/-- What holds of a wait that no cancellation has reached past its shield. -/
def Wait.Sound (lock : ThreadsafeLock.State κ) (client : κ) : Wait → Prop
  | .outside | .waiting _ => True
  | .starting shield => ShieldWait.Sound 1 shield ∧ shield.inner = .pending
  | .shielded shield =>
      ShieldWait.Sound 1 shield
      ∧ (shield.inner = .pending ∧ lock.Acquires client
        ∨ shield.inner.done = true ∧ lock.clients client = .holding)
  | .direct => lock.Acquires client
  | .exited => lock.clients client = .holding

/-- Every wait is as it should be, and all exits so far had the lock. -/
structure Sound (state : State κ) : Prop where
  lock : ThreadsafeLock.Sound state.condition.lock
  waits : ∀ client, (state.waits client).Sound state.condition.lock client
  exits : ∀ exit ∈ state.exits, exit.2 = .holding

theorem sound_initial : Sound (.initial : State κ) where
  lock := ThreadsafeLock.sound_initial
  waits := fun _ => trivial
  exits := by simp [State.initial]

/-- A step that leaves the lock alone. -/
theorem Sound.keepLock {state next : State κ} (sound : Sound state)
    (lock : next.condition.lock = state.condition.lock)
    (waits
      : ∀ client,
          next.waits client = state.waits client
          ∨ (next.waits client).Sound state.condition.lock client)
    (exits : next.exits = state.exits)
    : Sound next where
  lock := lock ▸ sound.lock
  waits := by
    intro client
    rw [lock]
    rcases waits client with same | owed
    · exact same ▸ sound.waits client
    · exact owed
  exits := exits ▸ sound.exits

@[simp] theorem client?_reacquire (client : κ) (loop : Option Nat)
    : (ThreadsafeCondition.reacquire client loop).client? = some client := by
  cases loop <;> rfl

variable [DecidableEq κ]

/-- A further step of an acquisition that nothing cancelled ends it with the lock, or leaves it on
its way.
-/
theorem acquires_or_holding {lock next : ThreadsafeLock.State κ}
    {event : ThreadsafeLock.Event κ} {client : κ}
    (stepped : ThreadsafeLock.step lock event = some next)
    (own : acquirer? event = some client) (acquires : lock.Acquires client)
    : next.clients client = .holding ∨ next.Acquires client := by
  cases ThreadsafeLock.move_of_step stepped with
  | enters | lowersCount | resumesHolding =>
      obtain rfl := Option.some.inj own
      exact .inl (by simp)
  | takesSync =>
      obtain rfl := Option.some.inj own
      exact .inr (by simp [ThreadsafeLock.State.Acquires])
  | resumesCancelled waits _ _ cancelled =>
      obtain rfl := Option.some.inj own
      simp only [ThreadsafeLock.State.Acquires, waits] at acquires
      rcases cancelled with mustCancel | cancelled
      · simp [acquires.1] at mustCancel
      · exact (acquires.2 (FutureState.isCancelled_iff.mp cancelled)).elim
  | acquiresSync | acquiresAsync | releases | setsResult | closesLoop | cancels => contradiction

/-- The first block of the acquisition in the `finally`. -/
theorem acquires_reacquire {lock next : ThreadsafeLock.State κ} {client : κ}
    {loop : Option Nat} (sound : ThreadsafeLock.Sound lock)
    (stepped : ThreadsafeLock.step lock (ThreadsafeCondition.reacquire client loop) = some next)
    : next.Acquires client := by
  cases loop with
  | none => exact ThreadsafeLock.acquires_acquireSync stepped
  | some loop => exact sound.acquires_acquireAsync stepped

/-- A step of the lock by another client, or by a loop. -/
theorem Wait.Sound.step {lock next : ThreadsafeLock.State κ}
    {event : ThreadsafeLock.Event κ} {client : κ} {wait : Wait}
    (owed : wait.Sound lock client) (sound : ThreadsafeLock.Sound lock)
    (stepped : ThreadsafeLock.step lock event = some next)
    (spared : event.client? ≠ some client)
    : wait.Sound next client := by
  have same := ThreadsafeLock.step_clients_of_ne stepped spared
  cases wait with
  | outside | waiting _ => trivial
  | starting shield => exact owed
  | shielded shield =>
      refine ⟨owed.1, owed.2.imp ?_ ?_⟩
      · exact fun ⟨pending, acquires⟩ => ⟨pending, acquires.step sound stepped spared⟩
      · exact fun ⟨done, holding⟩ => ⟨done, same.trans holding⟩
  | direct => exact ThreadsafeLock.State.Acquires.step owed sound stepped spared
  | exited => exact same.trans owed

/-- A step of the lock that leaves the waits of the other clients alone. -/
theorem Sound.stepLock {state next : State κ} {event : ThreadsafeLock.Event κ}
    (sound : Sound state)
    (stepped : ThreadsafeLock.step state.condition.lock event = some next.condition.lock)
    (kept : ∀ other, event.client? ≠ some other → next.waits other = state.waits other)
    (owed
      : ∀ client,
          event.client? = some client
          → (next.waits client).Sound next.condition.lock client)
    (exits : next.exits = state.exits)
    : Sound next where
  lock := ThreadsafeLock.step_sound sound.lock stepped
  waits := by
    intro client
    by_cases own : event.client? = some client
    · exact owed client own
    · rw [kept client own]
      exact (sound.waits client).step sound.lock stepped own
  exits := exits ▸ sound.exits

/-- A client that takes a step of the lock, in the wait where it is. -/
theorem Sound.stepKept {state : State κ} {condition : ThreadsafeCondition.State κ}
    {event : ThreadsafeLock.Event κ} {client : κ} (sound : Sound state)
    (stepped : ThreadsafeLock.step state.condition.lock event = some condition.lock)
    (own : event.client? = some client)
    (owed : (state.waits client).Sound condition.lock client)
    : Sound (state.setCondition condition) := by
  refine sound.stepLock stepped (fun _ _ => rfl) (fun other same => ?_) rfl
  exact Option.some.inj (own.symm.trans same) ▸ owed

/-- A client that takes a step of the lock, and goes on with its wait. -/
theorem Sound.stepOwn {state : State κ} {condition : ThreadsafeCondition.State κ}
    {event : ThreadsafeLock.Event κ} {client : κ} {wait : Wait} (sound : Sound state)
    (stepped : ThreadsafeLock.step state.condition.lock event = some condition.lock)
    (own : event.client? = some client) (owed : wait.Sound condition.lock client)
    : Sound ((state.setCondition condition).setWait client wait) := by
  refine sound.stepLock stepped (fun other different => ?_) (fun other same => ?_) rfl
  · have different : other ≠ client := fun same => different (same ▸ own)
    simp [different]
  · obtain rfl := Option.some.inj (own.symm.trans same)
    rw [State.waits_setWait, if_pos rfl]
    exact owed

theorem Sound.setWait {state : State κ} {client : κ} {wait : Wait} (sound : Sound state)
    (owed : wait.Sound state.condition.lock client)
    : Sound (state.setWait client wait) := by
  refine sound.keepLock rfl (fun other => ?_) rfl
  by_cases same : other = client
  · subst same
    exact .inr (by simpa using owed)
  · exact .inl (by simp [same])

/-- A wait that exits with the lock. -/
theorem Sound.finish {state : State κ} {client : κ} (sound : Sound (state.setWait client .exited))
    (holding : state.condition.lock.clients client = .holding)
    : Sound (state.finish client) where
  lock := sound.lock
  waits := sound.waits
  exits := by
    intro exit member
    rcases List.mem_append.mp member with earlier | last
    · exact sound.exits exit earlier
    · obtain rfl := List.mem_singleton.mp last
      exact holding

-----------------------------------------------------------------------------------------
-- The stages of a wait
-----------------------------------------------------------------------------------------

/-- A step of the condition that belongs to no wait. -/
theorem Sound.other {state : State κ} {event : ThreadsafeCondition.Event κ}
    {condition : ThreadsafeCondition.State κ} (sound : Sound state)
    (allowed : state.allows event = true)
    (stepped : ThreadsafeCondition.step state.condition event = some condition)
    : Sound (state.setCondition condition) := by
  cases ThreadsafeCondition.move_of_step stepped with
  | locks moved outside =>
      refine sound.stepLock moved (fun _ _ => rfl) (fun client own => ?_) rfl
      have outside : state.waits client = .outside := by simpa [State.allows, own] using allowed
      simp [outside, Wait.Sound]
  | @wakes client waiter left here =>
      exact sound.keepLock (ThreadsafeCondition.wake_frame ..).1 (fun _ => .inl rfl) rfl
  | registers | notifies | clears | setsResult =>
      exact sound.keepLock rfl (fun _ => .inl rfl) rfl
  | releases | leaves | cancelsDone | cancels => contradiction

theorem Sound.beginWait {state next : State κ} {client : κ} {loop initial : Option Nat}
    (sound : Sound state) (begun : state.beginWait client loop initial = some next)
    : Sound next := by
  simp only [State.beginWait, Option.ite_none_right_eq_some, Option.map_eq_some_iff] at begun
  obtain ⟨_, condition, stepped, rfl⟩ := begun
  cases ThreadsafeCondition.move_of_step stepped with
  | releases _ moved => exact sound.stepOwn moved rfl trivial

/-- The acquisition in the `finally` begins. -/
theorem Sound.leave {state next : State κ} {client : κ} {wait : Wait} (sound : Sound state)
    (left : state.leave client wait = some next)
    (owed : ∀ lock : ThreadsafeLock.State κ, lock.Acquires client → wait.Sound lock client)
    : Sound next := by
  obtain ⟨condition, stepped, rfl⟩ := Option.map_eq_some_iff.mp left
  cases ThreadsafeCondition.move_of_step stepped with
  | leaves _ _ moved =>
      exact sound.stepOwn moved (client?_reacquire ..)
        (owed _ (acquires_reacquire sound.lock moved))

/-- An acquisition goes on only from a place on the way to the lock. -/
theorem not_holding_of_acquirer {lock next : ThreadsafeLock.State κ}
    {event : ThreadsafeLock.Event κ} {client : κ}
    (stepped : ThreadsafeLock.step lock event = some next)
    (own : acquirer? event = some client)
    : lock.clients client ≠ .holding := by
  cases ThreadsafeLock.move_of_step stepped with
  | enters here | takesSync here | lowersCount here | resumesCancelled here
  | resumesHolding here =>
      obtain rfl := Option.some.inj own
      simp [here]
  | acquiresSync | acquiresAsync | releases | setsResult | closesLoop | cancels => contradiction

/-- An acquisition that is still on its way changes nothing else. -/
theorem acquired_of_acquires {state : State κ} {client : κ} (wait : Wait)
    (acquires : state.condition.lock.Acquires client)
    : state.acquired client wait = some state := by
  have goesOn : acquisitionEnd (state.condition.lock.clients client) = none := by
    unfold ThreadsafeLock.State.Acquires at acquires
    cases place : state.condition.lock.clients client with
    | entering | syncWaiting | syncTaken | asyncWaiting _ _ => rfl
    | idle | holding => simp [place] at acquires
  simp only [State.acquired, goesOn]

/-- A further step of the acquisition, in its task or in the wait itself. -/
theorem Sound.acquire {state next : State κ} {event : ThreadsafeLock.Event κ}
    (sound : Sound state) (stepped : step state (.acquire event) = some next)
    : Sound next := by
  simp only [step, Option.bind_eq_some_iff] at stepped
  obtain ⟨client, own, lock, moved, after⟩ := stepped
  have owed := sound.waits client
  have taker : event.client? = some client := by
    cases event <;> first | exact own | contradiction
  cases here : state.waits client with
  | shielded shield =>
      simp only [here] at owed after
      obtain ⟨pending, acquires⟩ :=
        owed.2.resolve_right (fun ended => not_holding_of_acquirer moved own ended.2)
      rcases acquires_or_holding moved own acquires with obtained | acquires
      · have ended : ShieldWait.step shield (.innerEnds (.success ()))
            = some { shield with inner := .success () } := by
          simp [ShieldWait.step, pending]
        have shielded := ShieldWait.step_sound Nat.one_pos owed.1 ended
        simp only [State.acquired, State.lock_setLock, acquisitionEnd, obtained, ended,
          Option.map_some, Option.some.injEq] at after
        exact after ▸ sound.stepOwn moved taker ⟨shielded, .inr ⟨rfl, obtained⟩⟩
      · obtain rfl := Option.some.inj ((acquired_of_acquires _ acquires).symm.trans after)
        refine sound.stepKept moved taker ?_
        rw [here]
        exact ⟨owed.1, .inl ⟨pending, acquires⟩⟩
  | direct =>
      simp only [here] at owed after
      rcases acquires_or_holding moved own owed with obtained | acquires
      · simp only [State.acquired, State.lock_setLock, acquisitionEnd, obtained,
          Option.some.injEq] at after
        exact after ▸ Sound.finish (sound.stepOwn moved taker obtained) obtained
      · obtain rfl := Option.some.inj ((acquired_of_acquires _ acquires).symm.trans after)
        exact sound.stepKept moved taker (here ▸ acquires)
  | outside | waiting _ | starting _ | exited => simp [here] at after

-----------------------------------------------------------------------------------------
-- Every run
-----------------------------------------------------------------------------------------

/-- A cancellation of the client goes to its acquisition, which is not over. -/
def State.isExposed (state : State κ) (client : κ) : Bool :=
  match state.waits client with
  | .direct => true
  | .shielded shield => passesOn shield
  | .outside | .waiting _ | .starting _ | .exited => false

/-- No task is cancelled in its `finally` past the shield and before it has the lock. -/
def SparesAcquisition (state : State κ) : Event κ → Prop
  | .cancel client => state.isExposed client = false
  | .other _ | .waitSync _ | .wait _ _ _ | .reacquire _ | .start _ | .acquire _
  | .innerCallback _ | .resume _ | .release _ => True

instance decidableSparesAcquisition (state : State κ)
    : ∀ event, Decidable (SparesAcquisition state event)
  | .cancel client => inferInstanceAs (Decidable (state.isExposed client = false))
  | .other _ | .waitSync _ | .wait _ _ _ | .reacquire _ | .start _ | .acquire _
  | .innerCallback _ | .resume _ | .release _ => isTrue trivial

/-- A cancellation that does not go to the acquisition. -/
theorem Sound.cancel {state next : State κ} {client : κ} (sound : Sound state)
    (spares : state.isExposed client = false)
    (stepped : step state (.cancel client) = some next)
    : Sound next := by
  have owed := sound.waits client
  simp only [step] at stepped
  unfold State.isExposed at spares
  split at stepped
  · obtain ⟨condition, cancelled, rfl⟩ := Option.map_eq_some_iff.mp stepped
    cases ThreadsafeCondition.move_of_step cancelled with
    | cancelsDone | cancels => exact sound.keepLock rfl (fun _ => .inl rfl) rfl
  · rename_i shield here
    rw [here] at owed
    obtain ⟨shield', moved, rfl⟩ := Option.map_eq_some_iff.mp stepped
    have same := ShieldWait.inner_of_step (by simp) moved
    exact sound.setWait ⟨ShieldWait.step_sound Nat.one_pos owed.1 moved, same.trans owed.2⟩
  · rename_i shield here
    simp only [here] at owed spares
    simp only [Option.ite_none_left_eq_some, State.cancelShielded, spares, Bool.false_eq_true,
      if_false, Option.bind_eq_some_iff, Option.some.injEq] at stepped
    obtain ⟨_, shield', moved, rfl⟩ := stepped
    have same := ShieldWait.inner_of_step (by simp) moved
    refine sound.setWait ⟨ShieldWait.step_sound Nat.one_pos owed.1 moved, ?_⟩
    rw [same]
    exact owed.2
  · rename_i here
    simp [here] at spares
  all_goals contradiction

/-- What `shield_wait()` does by itself. It ends only once its task has. -/
theorem Sound.resumed {state : State κ} {client : κ}
    {shield next : ShieldWait.State Empty Unit} (sound : Sound state)
    (owed : (Wait.shielded shield).Sound state.condition.lock client)
    (moved : ShieldWait.step shield .resume = some next)
    : Sound (state.resumed client next) := by
  have same := ShieldWait.inner_of_step (by simp) moved
  have resumed := ShieldWait.step_sound Nat.one_pos owed.1 moved
  unfold State.resumed
  split
  · rename_i outcome exited
    have ended := resumed.place
    rw [exited, same] at ended
    rcases owed.2 with ⟨pending, _⟩ | ⟨_, holding⟩
    · simp [ShieldWait.Place.Sound, pending] at ended
    · exact Sound.finish (sound.setWait holding) holding
  all_goals
    refine sound.setWait ⟨resumed, ?_⟩
    rw [same]
    exact owed.2

/-- The `finally` of `wait()` or `wait_sync()` begins. A shield is there for a task without
outstanding cancellation requests, with one iteration.
-/
theorem Sound.reacquire {state next : State κ} {client : κ} (sound : Sound state)
    (stepped : step state (.reacquire client) = some next)
    : Sound next := by
  simp only [step] at stepped
  split at stepped
  · exact sound.leave stepped (fun _ => id)
  · rename_i initial _
    split_ifs at stepped with direct woken
    · exact sound.leave stepped (fun _ => id)
    · obtain rfl := Option.some.inj stepped
      have none : initial = 0 := by
        simp only [shieldCount] at direct
        omega
      subst none
      exact sound.setWait ⟨ShieldWait.initial_sound Nat.one_pos .pending, rfl⟩
  all_goals contradiction

/-- The release of a client that exited its wait is that of the holder of the lock. -/
theorem Sound.release {state next : State κ} {client : κ} (sound : Sound state)
    (stepped : step state (.release client) = some next)
    : state.condition.lock.clients client = .holding ∧ Sound next := by
  simp only [step, Option.ite_none_right_eq_some] at stepped
  obtain ⟨⟨here, unheld⟩, same⟩ := stepped
  obtain rfl := Option.some.inj same
  have holding : state.condition.lock.clients client = .holding := by
    have owed := sound.waits client
    rwa [here] at owed
  have moved : ThreadsafeLock.step state.condition.lock (.release client)
      = some (state.condition.lock.releaseAsync.setClient client .idle) := by
    simp [ThreadsafeLock.step, holding, unheld]
  exact ⟨holding, sound.stepOwn moved rfl trivial⟩

/-- Every step that spares the acquisitions keeps what the waits owe, by cases on the event. -/
theorem step_sound {state next : State κ} {event : Event κ} (sound : Sound state)
    (spares : SparesAcquisition state event) (stepped : step state event = some next)
    : Sound next := by
  cases event with
  | other event =>
      simp only [step, Option.ite_none_right_eq_some] at stepped
      obtain ⟨allowed, same⟩ := stepped
      obtain ⟨condition, moved, rfl⟩ := Option.map_eq_some_iff.mp same
      exact sound.other allowed moved
  | waitSync client => exact sound.beginWait stepped
  | wait client loop initial => exact sound.beginWait stepped
  | reacquire client => exact sound.reacquire stepped
  | start client =>
      simp only [step] at stepped
      split at stepped
      · rename_i shield here
        have owed := sound.waits client
        rw [here] at owed
        exact sound.leave stepped (fun _ acquires => ⟨owed.1, .inl ⟨owed.2, acquires⟩⟩)
      all_goals contradiction
  | acquire event => exact sound.acquire stepped
  | cancel client => exact sound.cancel spares stepped
  | innerCallback client =>
      simp only [step] at stepped
      split at stepped
      · rename_i shield here
        have owed := sound.waits client
        rw [here] at owed
        obtain ⟨shield', moved, rfl⟩ := Option.map_eq_some_iff.mp stepped
        have same := ShieldWait.inner_of_step (by simp) moved
        refine sound.setWait ⟨ShieldWait.step_sound Nat.one_pos owed.1 moved, ?_⟩
        rw [same]
        exact owed.2
      all_goals contradiction
  | resume client =>
      simp only [step] at stepped
      split at stepped
      · rename_i shield here
        have owed := sound.waits client
        rw [here] at owed
        obtain ⟨shield', moved, rfl⟩ := Option.map_eq_some_iff.mp stepped
        exact sound.resumed owed moved
      all_goals contradiction
  | release client => exact (sound.release stepped).2

end Aiodrive.ConditionWait
