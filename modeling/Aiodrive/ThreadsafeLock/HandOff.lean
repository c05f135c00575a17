import Aiodrive.ThreadsafeLock.Exclusion

/-! A `ThreadsafeLock` is lost exactly when a task is cancelled, or its loop closed, after the
release handed the lock to it and before it returned from `acquire_async()`: nothing hands
the lock on then.
-/

namespace Aiodrive.ThreadsafeLock

variable {κ : Type*} {state next : State κ}

/-- `_sync_lock` is taken, and no client owns the lock or will obtain it. -/
def Leaked (state : State κ) : Prop :=
  state.syncLock = true ∧ ∀ client, ¬state.Obtains client

/-- The event does not reach a task that the lock was handed to and that would obtain it. -/
def SparesHandOff (state : State κ) : Event κ → Prop
  | .cancel client => ¬state.Obtains client
  | .closeLoop loop =>
      ∀ client future mustCancel,
        state.clients client = .asyncWaiting future mustCancel
        → state.loopOf future = loop
        → ¬state.Obtains client
  | .acquireSync _ | .acquireAsync _ _ | .enter _ | .takeSync _ | .lowerCount _ | .release _
  | .setResult _ | .resume _ => True

theorem State.Obtains.owns {client : κ} (obtains : state.Obtains client)
    : state.Owns client := by
  unfold State.Obtains at obtains
  unfold State.Owns
  cases place : state.clients client with
  | idle => simp [place] at obtains
  | entering => simp [place] at obtains
  | syncWaiting => simp [place] at obtains
  | syncTaken => trivial
  | holding => trivial
  | asyncWaiting future mustCancel =>
      simp only [place] at obtains
      exact obtains.2.1

/-- What a task in `await future` still obtains depends on its future alone. -/
theorem obtains_iff_of_future {client : κ} (same : next.clients client = state.clients client)
    (kept
      : ∀ future,
          state.clients client = .asyncWaiting future false
          → (next.Handed future
              ∧ next.futures future ≠ .cancelled
              ∧ next.closedLoop (next.loopOf future) = false
            ↔ state.Handed future
              ∧ state.futures future ≠ .cancelled
              ∧ state.closedLoop (state.loopOf future) = false))
    : next.Obtains client ↔ state.Obtains client := by
  unfold State.Obtains
  rw [same]
  cases place : state.clients client with
  | asyncWaiting future mustCancel =>
      exact and_congr_right (fun spared => kept future (spared ▸ place))
  | idle | entering | syncWaiting | syncTaken | holding => rfl

/-- The run of `set_result` changes nobody's prospects. -/
theorem obtains_setResult {future : Nat} (scheduled : future ∈ state.scheduled) (client : κ)
    : (state.setResult future).Obtains client ↔ state.Obtains client := by
  refine obtains_iff_of_future rfl (fun waited _ => ?_)
  by_cases same : waited = future
  · subst same
    cases found : state.futures waited with
    | pending => simp [State.Handed, State.setResult, found, scheduled]
    | cancelled => simp [State.Handed, State.setResult, found]
    | exception error => exact error.elim
    | success value => simp [State.Handed, State.setResult, found]
  · have kept : (state.setResult future).futures waited = state.futures waited := by
      simp only [State.setResult]
      split
      · rfl
      · simp [same]
    simp only [State.Handed, kept]
    simp [State.setResult, List.mem_erase_of_ne same]

/-- A loop that closes makes nobody obtain the lock. -/
theorem obtains_of_closeLoop {loop : Nat} {client : κ}
    (obtains
      : ({ state with closedLoop := Function.update state.closedLoop loop true }
          : State κ).Obtains client)
    : state.Obtains client := by
  unfold State.Obtains at obtains ⊢
  cases place : state.clients client with
  | asyncWaiting future mustCancel =>
      simp only [place] at obtains ⊢
      obtain ⟨spared, handed, notCancelled, opened⟩ := obtains
      refine ⟨spared, handed, notCancelled, ?_⟩
      by_cases here : state.loopOf future = loop
      · simp [here] at opened
      · simpa [here] using opened
  | idle => simp [place] at obtains
  | entering => simp [place] at obtains
  | syncWaiting => simp [place] at obtains
  | syncTaken => trivial
  | holding => trivial

theorem Leaked.congr (syncLock : next.syncLock = state.syncLock)
    (obtains : ∀ client, next.Obtains client ↔ state.Obtains client)
    : Leaked next ↔ Leaked state := by
  simp only [Leaked, syncLock, obtains]

/-- A step that takes the lock from the only client that would obtain it loses the lock. -/
theorem Sound.leaked_of_lost (sound : Sound state) {client : κ}
    (obtains : state.Obtains client) (syncLock : next.syncLock = state.syncLock)
    (lost : ¬next.Obtains client)
    (shrinks : ∀ other, next.Obtains other → state.Obtains other)
    : Leaked next := by
  refine ⟨syncLock.trans (sound.locked_of_owns obtains.owns).1, fun other stillObtains => ?_⟩
  have same := sound.unique other client (shrinks other stillObtains).owns obtains.owns
  exact lost (same ▸ stillObtains)

theorem not_leaked_of_obtains {client : κ} (obtains : state.Obtains client)
    : ¬Leaked state :=
  fun leaked => leaked.2 client obtains

/-- A loop that closes loses the lock if a task of it would obtain the lock. -/
theorem Sound.leaked_closeLoop_iff (sound : Sound state) {loop : Nat}
    : Leaked { state with closedLoop := Function.update state.closedLoop loop true }
      ↔ Leaked state ∨ ¬SparesHandOff state (.closeLoop loop) := by
  by_cases spares : SparesHandOff state (.closeLoop loop)
  · apply Transition.entered_of_met _ spares
    refine Leaked.congr rfl (fun other => obtains_iff_of_future rfl ?_)
    intro future waits
    by_cases here : state.loopOf future = loop
    · have lost := spares other future false waits here
      simp only [State.Obtains, waits, true_and] at lost
      exact iff_of_false (by simp [here]) lost
    · simp [State.Handed, here]
  · simp only [spares, not_false_eq_true, or_true, iff_true]
    simp only [SparesHandOff, not_forall, not_not] at spares
    obtain ⟨client, future, mustCancel, waits, here, obtains⟩ := spares
    refine sound.leaked_of_lost obtains rfl (by simp [State.Obtains, waits, here]) ?_
    exact fun other => obtains_of_closeLoop

/-- A lock that is not lost is free when nobody has it or is in `acquire_sync()`, whoever
waits in `acquire_async()` behind a release that is to come.
-/
theorem Sound.free_iff_of_quiet (sound : Sound state)
    (quiet
      : ∀ client, ¬state.Obtains client ∧ ¬(state.clients client).InAcquireSync)
    : state.locked = false ∧ state.syncLock = false ↔ ¬Leaked state := by
  constructor
  · rintro ⟨_, free⟩ leaked
    have taken := leaked.1
    simp [free] at taken
  · intro notLeaked
    have free : state.syncLock = false := by
      by_contra taken
      exact notLeaked ⟨by simpa using taken, fun client => (quiet client).1⟩
    refine ⟨?_, free⟩
    by_contra locked
    obtain ⟨waiting, _, members, length⟩ := sound.counted
    have counted := sound.passed (by simpa using locked) free
    cases waiting with
    | nil => simp [length] at counted
    | cons client waiting =>
        apply (quiet client).2
        rcases (members client).mp List.mem_cons_self with place | place <;>
          simp [place, Client.InAcquireSync]

variable [DecidableEq κ]

theorem obtains_setClient_iff {client other : κ} {place : Client} (different : other ≠ client)
    : (state.setClient client place).Obtains other ↔ state.Obtains other := by
  simp [State.Obtains, different]

/-- A client that gets the lock has it. -/
theorem not_leaked_setClient {client : κ} {place : Client}
    (arrives : place = .holding ∨ place = .syncTaken)
    : ¬Leaked (state.setClient client place) := by
  intro leaked
  apply leaked.2 client
  rcases arrives with rfl | rfl <;> simp [State.Obtains]

/-- A client that moves from outside the lock to outside the lock changes nobody's prospects.
-/
theorem obtains_setClient_of_outside {client other : κ} {place : Client}
    (before : ¬state.Obtains client) (after : ¬(state.setClient client place).Obtains client)
    : (state.setClient client place).Obtains other ↔ state.Obtains other := by
  by_cases same : other = client
  · subst same
    exact iff_of_false after before
  · exact obtains_setClient_iff same

/-- A cancelled task obtains the lock no more, whether its future was done or not. -/
theorem Sound.obtains_cancel (sound : Sound state) {client : κ} {future : Nat}
    {mustCancel : Bool} (waits : state.clients client = .asyncWaiting future mustCancel)
    (other : κ)
    : (state.cancel client future).Obtains other ↔ other ≠ client ∧ state.Obtains other := by
  unfold State.cancel
  by_cases same : other = client
  · subst same
    split
    · simp [State.Obtains]
    · simp [State.Obtains, waits]
  · simp only [ne_eq, same, not_false_eq_true, true_and]
    split
    · exact obtains_setClient_iff same
    · refine obtains_iff_of_future rfl (fun waited otherWaits => ?_)
      have different : waited ≠ future := by
        rintro rfl
        exact same (sound.distinct _ _ _ _ _ otherWaits waits)
      simp [State.Handed, different]

/-- A call of `acquire_async()` changes nobody's prospects. -/
theorem Sound.obtains_acquireAsync (sound : Sound state) {client : κ} {loop : Nat}
    (idle : state.clients client = .idle) (other : κ)
    : (state.acquireAsync client loop).Obtains other ↔ state.Obtains other := by
  unfold State.acquireAsync
  split
  · by_cases same : other = client
    · subst same
      refine iff_of_false (fun obtains => ?_) (by simp [State.Obtains, idle])
      simp only [State.Obtains, State.clients_setClient, if_true] at obtains
      exact sound.not_handed_futureCount obtains.2.1
    · refine (obtains_setClient_iff same).trans (obtains_iff_of_future rfl ?_)
      intro future waits
      have older : future ≠ state.futureCount :=
        Nat.ne_of_lt (sound.awaited _ _ _ waits).1
      simp [State.Handed, older]
  · exact obtains_setClient_of_outside (by simp [State.Obtains, idle]) (by simp [State.Obtains])

/-- A release leaves the lock free, or to a task that will obtain it. -/
theorem Sound.not_leaked_release (sound : Sound state) {client : κ}
    (holding : state.clients client = .holding)
    : ¬Leaked (state.releaseAsync.setClient client .idle) := by
  rcases sound.releaseAsync_cases with
    ⟨future, waiters, released, member, _, _, pending, opened⟩ | released
  · obtain ⟨waiter, waits⟩ := (sound.waiters future member).2.2 pending
    have different : waiter ≠ client := by
      rintro rfl
      simp [holding] at waits
    rw [released]
    refine not_leaked_of_obtains ((obtains_setClient_iff different).mpr ?_)
    simp [State.Obtains, waits, State.Handed, pending, opened]
  · rw [released]
    simp [Leaked]

/-- A cancellation loses the lock if the task would obtain the lock. -/
theorem Sound.leaked_cancel_iff (sound : Sound state) {client : κ} {future : Nat}
    {mustCancel : Bool} (waits : state.clients client = .asyncWaiting future mustCancel)
    : Leaked (state.cancel client future) ↔ Leaked state ∨ state.Obtains client := by
  have obtains := sound.obtains_cancel waits
  have syncLock : (state.cancel client future).syncLock = state.syncLock := by
    unfold State.cancel
    split <;> rfl
  by_cases before : state.Obtains client
  · simp only [before, or_true, iff_true]
    exact sound.leaked_of_lost before syncLock (fun after => ((obtains client).mp after).1 rfl)
      (fun other after => ((obtains other).mp after).2)
  · simp only [before, or_false]
    apply Leaked.congr syncLock
    intro other
    rw [obtains other, and_iff_right_iff_imp]
    rintro otherObtains rfl
    exact before otherObtains

/-- The lock is lost at the steps that reach a task it was handed to, and stays so. -/
theorem Sound.leaked_move_iff (sound : Sound state) {event : Event κ}
    (move : Move state event next)
    : Leaked next ↔ Leaked state ∨ ¬SparesHandOff state event := by
  cases move with
  | @acquiresSync client idle unheld =>
      apply Transition.entered_of_met _ trivial
      unfold State.acquireSync
      split
      · exact Leaked.congr rfl (fun other =>
          obtains_setClient_of_outside (by simp [State.Obtains, idle]) (by simp [State.Obtains]))
      · exact Leaked.congr rfl (fun other =>
          obtains_setClient_of_outside (by simp [State.Obtains, idle]) (by simp [State.Obtains]))
  | @acquiresAsync client loop idle unheld opened =>
      apply Transition.entered_of_met _ trivial
      have syncLock : (state.acquireAsync client loop).syncLock = state.syncLock := by
        unfold State.acquireAsync
        split <;> rfl
      exact Leaked.congr syncLock (sound.obtains_acquireAsync idle)
  | @enters client entering free =>
      refine iff_of_false (not_leaked_setClient (by simp)) ?_
      simp [Leaked, free, SparesHandOff]
  | @takesSync client waits free =>
      refine iff_of_false (not_leaked_setClient (by simp)) ?_
      simp [Leaked, free, SparesHandOff]
  | @lowersCount client taken unheld =>
      have before : state.Obtains client := by simp [State.Obtains, taken]
      refine iff_of_false (not_leaked_setClient (by simp)) ?_
      simp [not_leaked_of_obtains before, SparesHandOff]
  | @releases client holding unheld =>
      have before : state.Obtains client := by simp [State.Obtains, holding]
      refine iff_of_false (sound.not_leaked_release holding) ?_
      simp [not_leaked_of_obtains before, SparesHandOff]
  | @setsResult future scheduled opened =>
      apply Transition.entered_of_met _ trivial
      exact Leaked.congr rfl (obtains_setResult scheduled)
  | closesLoop loop => exact sound.leaked_closeLoop_iff
  | @cancels client future mustCancel waits =>
      simpa only [SparesHandOff, not_not] using sound.leaked_cancel_iff waits
  | @resumesCancelled client future mustCancel waits done opened cancelled =>
      apply Transition.entered_of_met _ trivial
      refine Leaked.congr rfl (fun other =>
        obtains_setClient_of_outside ?_ (by simp [State.Obtains]))
      rcases cancelled with rfl | cancelled
      · simp [State.Obtains, waits]
      · have thrown := FutureState.isCancelled_iff.mp cancelled
        simp [State.Obtains, waits, thrown]
  | @resumesHolding client future waits done opened notCancelled =>
      have resolved := FutureState.success_of_not_cancelled done notCancelled
      have before : state.Obtains client := by
        simp [State.Obtains, waits, State.Handed, resolved, opened]
      refine iff_of_false (not_leaked_setClient (by simp)) ?_
      simp [not_leaked_of_obtains before, SparesHandOff]

/-- In every run, `_sync_lock` is taken with nobody to obtain it, and stays so, exactly if some
step cancels a task that the lock was handed to or closes its loop. In every other run,
a state in which nobody has the lock or is in `acquire_sync()` has it free, and only in such
a run. The proof follows the client that obtains the lock from step to step.
-/
theorem lock_free_iff {events : List (Event κ)} {final : State κ}
    (reached : Transition.run step .initial events = some final)
    : (final.syncLock = true ∧ (∀ client, ¬final.Obtains client)
        ↔ ¬Transition.Meets step SparesHandOff .initial events)
      ∧ ((∀ client, ¬final.Obtains client ∧ ¬(final.clients client).InAcquireSync)
        → (final.locked = false ∧ final.syncLock = false
          ↔ Transition.Meets step SparesHandOff .initial events)) := by
  have leaked : Leaked final ↔ ¬Transition.Meets step SparesHandOff .initial events :=
    Transition.bad_iff_not_meets_of_good SparesHandOff
      (fun _ _ _ _ sound stepped => step_sound sound stepped)
      (fun _ _ _ _ sound stepped => sound.leaked_move_iff (move_of_step stepped))
      sound_initial (fun leaked => nomatch leaked.1) reached
  refine ⟨leaked, fun quiet => ?_⟩
  rw [(run_sound reached).free_iff_of_quiet quiet, leaked, not_not]

/-- A task is cancelled while `set_result` is on its way to it: every client is idle then, and
the lock stays locked.
-/
theorem lock_leaks_at_cancellation
    : ∃ events, ∃ final : State Nat,
        Transition.run step .initial events = some final
        ∧ (∀ client, final.clients client = .idle)
        ∧ final.waiters = []
        ∧ final.scheduled = []
        ∧ final.locked = true
        ∧ final.syncLock = true := by
  have reached
      : Transition.run step (.initial : State Nat)
          [.acquireAsync 0 0, .enter 0, .acquireAsync 1 0, .release 0, .cancel 1,
            .setResult 0, .resume 1]
        = some _ :=
    rfl
  refine ⟨_, _, reached, fun client => ?_, rfl, rfl, rfl, rfl⟩
  match client with
  | 0 => rfl
  | 1 => rfl
  | _ + 2 => rfl

/-- A task that is cancelled in the queue is passed over, and the lock is free in the end. -/
theorem lock_free_iff_cancelledInQueue
    : ∃ events, ∃ final : State Nat,
        Transition.run step .initial events = some final
        ∧ (∀ client, ¬final.Obtains client ∧ ¬(final.clients client).InAcquireSync)
        ∧ final.locked = false
        ∧ final.syncLock = false
        ∧ Transition.Meets step SparesHandOff .initial events := by
  have ⟨final, reached, idle, unlocked, free⟩
      : ∃ final : State Nat,
          Transition.run step .initial
              [.acquireAsync 0 0, .enter 0, .acquireAsync 1 0, .cancel 1, .release 0, .resume 1]
            = some final
          ∧ (∀ client, final.clients client = .idle)
          ∧ final.locked = false
          ∧ final.syncLock = false :=
    ⟨_, rfl, fun client => match client with | 0 => rfl | 1 => rfl | _ + 2 => rfl, rfl, rfl⟩
  have quiet (client : Nat)
      : ¬final.Obtains client ∧ ¬(final.clients client).InAcquireSync := by
    simp [State.Obtains, Client.InAcquireSync, idle client]
  exact ⟨_, final, reached, quiet, unlocked, free,
    ((lock_free_iff reached).2 quiet).mp ⟨unlocked, free⟩⟩

end Aiodrive.ThreadsafeLock
