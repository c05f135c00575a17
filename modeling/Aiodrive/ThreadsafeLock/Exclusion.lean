import Aiodrive.ThreadsafeLock.Invariant

/-! At most one client owns a `ThreadsafeLock`, and the `_sync_lock.acquire()` under
`_state_lock` never blocks.
-/

namespace Aiodrive.ThreadsafeLock

variable {κ : Type*} {state next : State κ}

-----------------------------------------------------------------------------------------
-- Futures
-----------------------------------------------------------------------------------------

/-- The future of a new waiter is fresh. -/
theorem Sound.not_handed_futureCount (sound : Sound state)
    : ¬state.Handed state.futureCount := by
  rintro (scheduled | resolved)
  · exact Nat.lt_irrefl _ (sound.scheduled _ scheduled)
  · simp [sound.fresh _ (Nat.le_refl _)] at resolved

/-- The release passes over futures that were cancelled or whose loop is closed, and stops at
the first other one.
-/
theorem popWaiters_spec (state : State κ) (waiters : List Nat)
    : ∃ passed,
        waiters = passed ++ (state.popWaiters waiters).1.toList ++ (state.popWaiters waiters).2
        ∧ (∀ future,
            (state.popWaiters waiters).1 = some future
            → (state.futures future).isCancelled = false
              ∧ state.closedLoop (state.loopOf future) = false)
        ∧ ((state.popWaiters waiters).1 = none → (state.popWaiters waiters).2 = []) := by
  induction waiters with
  | nil => exact ⟨[], by simp [State.popWaiters]⟩
  | cons future waiters ih =>
      obtain ⟨passed, split, accepted, exhausted⟩ := ih
      unfold State.popWaiters
      split_ifs with cancelled closed
      · exact ⟨future :: passed, by simpa using split, accepted, exhausted⟩
      · exact ⟨future :: passed, by simpa using split, accepted, exhausted⟩
      · refine ⟨[], by simp, ?_, by simp⟩
        intro stopped found
        obtain rfl := Option.some.inj found
        simpa using And.intro cancelled closed

/-- A release hands the lock to a waiter that was not cancelled, on a loop that is not closed,
or leaves no waiter and gives `_sync_lock` back.
-/
theorem Sound.releaseAsync_cases (sound : Sound state)
    : (∃ future waiters,
        state.releaseAsync
            = { state with waiters, scheduled := state.scheduled ++ [future] }
          ∧ future ∈ state.waiters
          ∧ future ∉ waiters
          ∧ waiters.Sublist state.waiters
          ∧ state.futures future = .pending
          ∧ state.closedLoop (state.loopOf future) = false)
      ∨ state.releaseAsync
          = { state with
              waiters := []
              locked := if state.syncWaiterCount = 0 then false else state.locked
              syncLock := false } := by
  obtain ⟨passed, split, accepted, exhausted⟩ := popWaiters_spec state state.waiters
  unfold State.releaseAsync
  cases popped : state.popWaiters state.waiters with
  | mk stopped waiters =>
      simp only [popped] at split accepted exhausted
      cases stopped with
      | none =>
          obtain rfl := exhausted rfl
          exact Or.inr rfl
      | some future =>
          obtain ⟨notCancelled, opened⟩ := accepted future rfl
          have member : future ∈ state.waiters := by simp [split]
          have nodup := split ▸ sound.nodup
          simp only [Option.toList_some, List.append_assoc, List.singleton_append] at nodup
          have absent := (List.nodup_cons.mp (List.nodup_append.mp nodup).2.1).1
          have shorter : waiters.Sublist state.waiters := by
            rw [split]
            exact List.sublist_append_right _ _
          have unhanded := (sound.waiters future member).2.1
          refine Or.inl ⟨future, waiters, rfl, member, absent, shorter, ?_, opened⟩
          cases found : state.futures future with
          | pending => rfl
          | cancelled => simp [found, FutureState.isCancelled] at notCancelled
          | exception error => exact error.elim
          | success value => exact (unhanded (Or.inr found)).elim

/-- The holder of the lock is its only owner. -/
theorem Sound.eq_of_holding (sound : Sound state) {client other : κ}
    (holding : state.clients client = .holding) (owns : state.Owns other)
    : other = client :=
  sound.unique other client owns (by simp [State.Owns, holding])

/-- A future that becomes done, and is handed nothing by that. -/
theorem Sound.settle (sound : Sound state) {future : Nat} {scheduled : List Nat}
    {futures : Nat → FutureState Empty Unit} (created : future < state.futureCount)
    (kept : ∀ other, other ≠ future → futures other = state.futures other)
    (done : (futures future).done = true)
    (shrinks : ∀ other ∈ scheduled, other ∈ state.scheduled)
    (handed
      : ∀ other,
          ({ state with futures, scheduled } : State κ).Handed other → state.Handed other)
    : Sound { state with futures, scheduled } :=
  {
    toExclusive := sound.shrink rfl (fun _ => owns_of_handed rfl handed)
    toCounted := sound.toCounted.congr rfl rfl rfl rfl (fun _ _ _ => Iff.rfl)
    toQueued := {
      fresh := by
        intro other later
        have different : other ≠ future := Nat.ne_of_gt (Nat.lt_of_lt_of_le created later)
        exact (kept other different).trans (sound.fresh other later)
      scheduled := fun other later => sound.scheduled other (shrinks other later)
      awaited := by
        intro client waited mustCancel waits
        obtain ⟨waitedCreated, cancelledDone⟩ := sound.awaited client waited mustCancel waits
        refine ⟨waitedCreated, fun cancelled => ?_⟩
        by_cases same : waited = future
        · exact same ▸ done
        · exact (congrArg FutureState.done (kept waited same)).trans (cancelledDone cancelled)
      distinct := sound.distinct
      waiters := by
        intro other member
        obtain ⟨otherCreated, unhanded, listening⟩ := sound.waiters other member
        refine ⟨otherCreated, fun isHanded => unhanded (handed other isHanded), ?_⟩
        intro pending
        have different : other ≠ future := by
          rintro rfl
          exact absurd done (by simp [show futures other = .pending from pending])
        exact listening ((kept other different).symm.trans pending)
      nodup := sound.nodup
    }
  }

theorem Sound.setResult (sound : Sound state) {future : Nat}
    (scheduled : future ∈ state.scheduled)
    : Sound (state.setResult future) := by
  have kept (other : Nat) (different : other ≠ future)
      : (state.setResult future).futures other = state.futures other := by
    simp only [State.setResult]
    split
    · rfl
    · simp [different]
  have done : ((state.setResult future).futures future).done = true := by
    simp only [State.setResult]
    split
    · assumption
    · simp
  apply sound.settle (sound.scheduled future scheduled) kept done
    (fun _ => List.mem_of_mem_erase)
  intro other handed
  by_cases same : other = future
  · exact Or.inl (same ▸ scheduled)
  · rcases handed with later | resolved
    · exact Or.inl (List.mem_of_mem_erase later)
    · exact Or.inr (kept other same ▸ resolved)

theorem Sound.closeLoop (sound : Sound state) (loop : Nat)
    : Sound { state with closedLoop := Function.update state.closedLoop loop true } :=
  {
    toExclusive := sound.shrink rfl (fun _ owns => owns)
    toCounted := sound.toCounted.congr rfl rfl rfl rfl (fun _ _ _ => Iff.rfl)
    toQueued := sound.toQueued.congr rfl rfl rfl rfl (fun _ _ _ => Iff.rfl)
  }

variable [DecidableEq κ]

-----------------------------------------------------------------------------------------
-- Clients
-----------------------------------------------------------------------------------------

/-- A task in `await future` is one that moved there, or another one that was there. -/
theorem waits_setClient {client other : κ} {place : Client} {future : Nat} {mustCancel : Bool}
    (waits : (state.setClient client place).clients other = .asyncWaiting future mustCancel)
    : other = client ∧ place = .asyncWaiting future mustCancel
      ∨ other ≠ client ∧ state.clients other = .asyncWaiting future mustCancel := by
  by_cases same : other = client
  · exact Or.inl ⟨same, by simpa [same] using waits⟩
  · exact Or.inr ⟨same, by simpa [same] using waits⟩

theorem Sound.acquireAsync (sound : Sound state) {client : κ} {loop : Nat}
    (idle : state.clients client = .idle) (unheld : state.stateLock = none)
    : Sound (state.acquireAsync client loop) := by
  unfold State.acquireAsync
  split
  case isFalse unlocked => exact sound.begin idle unheld (by simpa using unlocked)
  rename_i locked
  have unhanded := sound.not_handed_futureCount
  exact {
    toExclusive := sound.shrink rfl (fun other owns => by
      by_cases same : other = client
      · subst same
        simp only [State.Owns, State.clients_setClient, if_true] at owns
        exact (unhanded owns).elim
      · exact (owns_setClient_iff same).mp owns)
    toCounted := sound.toCounted.congr rfl rfl rfl rfl (fun _ _ =>
      inAcquireSync_setClient_iff (by simp [idle, Client.InAcquireSync]) id)
    toQueued := {
      fresh := fun future later => sound.fresh future (by simpa using Nat.le_of_succ_le later)
      scheduled := fun future member => Nat.lt_succ_of_lt (sound.scheduled future member)
      awaited := by
        intro other future mustCancel waits
        rcases waits_setClient waits with ⟨_, same⟩ | ⟨_, waits⟩
        · obtain ⟨rfl, rfl⟩ := Client.asyncWaiting.inj same
          simp
        · obtain ⟨created, done⟩ := sound.awaited other future mustCancel waits
          exact ⟨Nat.lt_succ_of_lt created, done⟩
      distinct := by
        intro other another future _ _ waits alsoWaits
        have old {waiter : κ} {mustCancel : Bool}
            (waits : state.clients waiter = .asyncWaiting future mustCancel)
            : future ≠ state.futureCount :=
          Nat.ne_of_lt (sound.awaited _ _ _ waits).1
        rcases waits_setClient waits with ⟨rfl, here⟩ | ⟨_, before⟩ <;>
          rcases waits_setClient alsoWaits with ⟨rfl, there⟩ | ⟨_, alsoBefore⟩
        · rfl
        · exact (old alsoBefore (Client.asyncWaiting.inj here).1.symm).elim
        · exact (old before (Client.asyncWaiting.inj there).1.symm).elim
        · exact sound.distinct _ _ _ _ _ before alsoBefore
      waiters := by
        intro future member
        simp only [State.waiters_setClient, List.mem_append, List.mem_singleton] at member
        rcases member with member | rfl
        · obtain ⟨created, unhanded, listening⟩ := sound.waiters future member
          refine ⟨Nat.lt_succ_of_lt created, unhanded, fun pending => ?_⟩
          obtain ⟨other, waits⟩ := listening pending
          have different : other ≠ client := by
            rintro rfl
            simp [idle] at waits
          exact ⟨other, by simpa [different] using waits⟩
        · exact ⟨Nat.lt_succ_self _, unhanded, fun _ => ⟨client, by simp⟩⟩
      nodup := by
        have absent : state.futureCount ∉ state.waiters :=
          fun member => Nat.lt_irrefl _ (sound.waiters _ member).1
        refine List.nodup_append.mpr ⟨sound.nodup, by simp, ?_⟩
        rintro future member _ last rfl
        exact absent (List.mem_singleton.mp last ▸ member)
    }
  }

/-- Who owns the lock after its holder handed it to a future awaits that future. -/
theorem Sound.waits_of_handOver (sound : Sound state) {client other : κ} {future : Nat}
    {waiters : List Nat} (holding : state.clients client = .holding)
    (owns
      : ({ state with waiters, scheduled := state.scheduled ++ [future] }.setClient
          client .idle).Owns other)
    : ∃ mustCancel, state.clients other = .asyncWaiting future mustCancel := by
  obtain ⟨different, owns⟩ := owns_of_setClient (by simp) owns
  have notOld : ¬state.Owns other := fun old => different (sound.eq_of_holding holding old)
  cases place : state.clients other with
  | idle => simp [State.Owns, place] at owns
  | entering => simp [State.Owns, place] at owns
  | syncWaiting => simp [State.Owns, place] at owns
  | syncTaken => simp [State.Owns, place] at notOld
  | holding => simp [State.Owns, place] at notOld
  | asyncWaiting waited mustCancel =>
      simp only [State.Owns, place, State.Handed, List.mem_append,
        List.mem_singleton] at owns notOld
      have same : waited = future := by tauto
      exact ⟨mustCancel, by rw [same]⟩

theorem Sound.release (sound : Sound state) {client : κ}
    (holding : state.clients client = .holding) (unheld : state.stateLock = none)
    : Sound (state.releaseAsync.setClient client .idle) := by
  obtain ⟨held, locked⟩ := sound.locked_of_owns
    (show state.Owns client by simp [State.Owns, holding])
  obtain ⟨waiting, nodup, members, length⟩ := sound.counted
  rcases sound.releaseAsync_cases with
    ⟨future, waiters, released, member, absent, shorter, pending, opened⟩ | released
  · rw [released]
    exact {
      toExclusive := {
        free := by simp [held]
        unique := by
          intro other another owns alsoOwns
          obtain ⟨_, waits⟩ := sound.waits_of_handOver holding owns
          obtain ⟨_, alsoWaits⟩ := sound.waits_of_handOver holding alsoOwns
          exact sound.distinct _ _ _ _ _ waits alsoWaits
      }
      toCounted := sound.toCounted.congr rfl rfl rfl rfl (fun _ _ =>
        inAcquireSync_setClient_iff (by simp [holding, Client.InAcquireSync]) id)
      toQueued := (sound.toQueued.handOver member absent shorter).congr rfl rfl rfl rfl
        (fun _ _ _ => clients_setClient_iff (by simp [holding]) (by simp))
    }
  · rw [released]
    exact {
      toExclusive := {
        free := by
          intro _ other owns
          obtain ⟨different, owns⟩ := owns_of_setClient (by simp) owns
          exact different (sound.eq_of_holding holding owns)
        unique := by
          intro other another owns alsoOwns
          obtain ⟨different, owns⟩ := owns_of_setClient (by simp) owns
          exact (different (sound.eq_of_holding holding owns)).elim
      }
      toCounted := {
        counted := by
          refine ⟨waiting, nodup, fun other => ?_, length⟩
          rw [members other, clients_setClient_iff (by simp [holding]) (by simp),
            clients_setClient_iff (by simp [holding]) (by simp)]
        unlocked := by
          intro unlocked
          simp only [State.locked_setClient, locked, ite_eq_left_iff, Bool.true_eq_false,
            imp_false, not_not] at unlocked
          exact ⟨rfl, unlocked⟩
        passed := by
          intro stillLocked _ none
          simp only [State.syncWaiterCount_setClient] at none
          simp [none] at stillLocked
        entering := fun other => by
          rw [clients_setClient_iff (by simp [holding]) (by simp)]
          exact sound.entering other
        opened := by simp [unheld]
      }
      toQueued := sound.toQueued.giveBack.congr rfl rfl rfl rfl
        (fun _ _ _ => clients_setClient_iff (by simp [holding]) (by simp))
    }

/-- A task whose future is done leaves it, or learns that it was cancelled. -/
theorem Queued.leave (queued : Queued state) {client : κ} {future : Nat} {mustCancel : Bool}
    (waits : state.clients client = .asyncWaiting future mustCancel)
    (done : (state.futures future).done = true) {place : Client}
    (stays : ∀ other mustCancel', place = .asyncWaiting other mustCancel' → other = future)
    : Queued (state.setClient client place) :=
  {
    fresh := queued.fresh
    scheduled := queued.scheduled
    awaited := by
      intro other waited cancelled otherWaits
      rcases waits_setClient otherWaits with ⟨_, same⟩ | ⟨_, before⟩
      · obtain rfl := stays _ _ same
        exact ⟨(queued.awaited client waited mustCancel waits).1, fun _ => done⟩
      · exact queued.awaited other waited cancelled before
    distinct := by
      intro other another waited _ _ otherWaits alsoWaits
      rcases waits_setClient otherWaits with ⟨rfl, here⟩ | ⟨_, before⟩ <;>
        rcases waits_setClient alsoWaits with ⟨rfl, there⟩ | ⟨_, alsoBefore⟩
      · rfl
      · exact queued.distinct _ _ _ _ _ waits (stays _ _ here ▸ alsoBefore)
      · exact queued.distinct _ _ _ _ _ (stays _ _ there ▸ before) waits
      · exact queued.distinct _ _ _ _ _ before alsoBefore
    waiters := by
      intro other member
      obtain ⟨created, unhanded, listening⟩ := queued.waiters other member
      refine ⟨created, unhanded, fun pending => ?_⟩
      obtain ⟨waiter, waiterWaits⟩ := listening pending
      have different : waiter ≠ client := by
        rintro rfl
        obtain ⟨rfl, _⟩ := Client.asyncWaiting.inj (waiterWaits.symm.trans waits)
        rw [State.futures_setClient] at pending
        simp [pending] at done
      exact ⟨waiter, by simpa [different] using waiterWaits⟩
    nodup := queued.nodup
  }

theorem Sound.cancel (sound : Sound state) {client : κ} {future : Nat} {mustCancel : Bool}
    (waits : state.clients client = .asyncWaiting future mustCancel)
    : Sound (state.cancel client future) := by
  obtain ⟨created, _⟩ := sound.awaited client future mustCancel waits
  unfold State.cancel
  split
  · rename_i done
    exact {
      toExclusive := sound.shrink rfl (fun other owns => by
        by_cases same : other = client
        · subst same
          simpa [State.Owns, waits] using owns
        · exact (owns_setClient_iff same).mp owns)
      toCounted := sound.toCounted.congr rfl rfl rfl rfl (fun _ _ =>
        inAcquireSync_setClient_iff (by simp [waits, Client.InAcquireSync]) id)
      toQueued := sound.leave waits done (fun _ _ same => (Client.asyncWaiting.inj same).1.symm)
    }
  · apply sound.settle created (fun other different => by simp [different]) (by simp)
      (fun _ => id)
    intro other handed
    rcases handed with scheduled | resolved
    · exact Or.inl scheduled
    · by_cases same : other = future
      · simp [same] at resolved
      · exact Or.inr (by simpa [same] using resolved)

/-- A task resumes from `await future`, in the lock only if the lock was handed to it. -/
theorem Sound.resume (sound : Sound state) {client : κ} {future : Nat} {mustCancel : Bool}
    (waits : state.clients client = .asyncWaiting future mustCancel)
    (done : (state.futures future).done = true) {place : Client}
    (arrives
      : place = .idle ∨ place = .holding ∧ (state.futures future).isCancelled = false)
    : Sound (state.setClient client place) :=
  {
    toExclusive := sound.shrink rfl (fun other owns => by
      rcases arrives with rfl | ⟨rfl, notCancelled⟩
      · exact (owns_of_setClient (by simp) owns).2
      · by_cases same : other = client
        · subst same
          have handed : state.Handed future :=
            Or.inr (FutureState.success_of_not_cancelled done notCancelled)
          simpa [State.Owns, waits] using handed
        · exact (owns_setClient_iff same).mp owns)
    toCounted := sound.toCounted.congr rfl rfl rfl rfl (fun _ _ =>
      inAcquireSync_setClient_iff (by simp [waits, Client.InAcquireSync])
        (by rcases arrives with rfl | ⟨rfl, _⟩ <;> exact id))
    toQueued := sound.leave waits done (fun _ _ same => by
      rcases arrives with rfl | ⟨rfl, _⟩ <;> contradiction)
  }

-----------------------------------------------------------------------------------------
-- Every run
-----------------------------------------------------------------------------------------

/-- Every step keeps the invariant, by cases on the event. -/
theorem step_sound {event : Event κ} (sound : Sound state)
    (stepped : step state event = some next)
    : Sound next := by
  cases move_of_step stepped with
  | acquiresSync idle unheld => exact sound.acquireSync idle unheld
  | acquiresAsync idle unheld opened => exact sound.acquireAsync idle unheld
  | enters entering free => exact sound.enter entering free
  | takesSync waits free => exact sound.takeSync waits free
  | lowersCount taken unheld => exact sound.lowerCount taken
  | releases holding unheld => exact sound.release holding unheld
  | setsResult scheduled opened => exact sound.setResult scheduled
  | closesLoop loop => exact sound.closeLoop loop
  | cancels waits => exact sound.cancel waits
  | resumesCancelled waits done opened cancelled =>
      exact sound.resume waits done (Or.inl rfl)
  | resumesHolding waits done opened notCancelled =>
      exact sound.resume waits done (Or.inr ⟨rfl, notCancelled⟩)

theorem run_sound {events : List (Event κ)} {final : State κ}
    (reached : Transition.run step .initial events = some final)
    : Sound final :=
  Transition.run_preserves (fun _ _ _ => step_sound) sound_initial reached

/-- In every run, whatever is cancelled and whichever loops close, at most one client owns the
lock, an unlocked lock has `_sync_lock` free and counts no waiter, and whoever holds
`_state_lock` is at an acquisition of `_sync_lock` that does not block.
-/
theorem lock_exclusive {events : List (Event κ)} {final : State κ}
    (reached : Transition.run step .initial events = some final)
    : (∀ client other, final.Owns client → final.Owns other → client = other)
      ∧ (final.locked = false → final.syncLock = false ∧ final.syncWaiterCount = 0)
      ∧ (∀ client,
          final.clients client = .entering ∨ final.stateLock = some client
          → final.syncLock = false ∧ (step final (.enter client)).isSome = true) := by
  have sound := run_sound reached
  refine ⟨sound.unique, sound.unlocked, fun client inside => ?_⟩
  have entering : final.clients client = .entering := by
    rcases inside with entering | held
    · exact entering
    · exact (sound.entering client).mpr held
  have free := (sound.unlocked (sound.opened client ((sound.entering client).mp entering))).1
  exact ⟨free, by simp [step, entering, free]⟩

/-- Two threads and two tasks, one of which is cancelled in the queue, share the lock. -/
theorem lock_exclusive_mixed
    : ∃ final : State Nat,
        Transition.run step .initial
            [.acquireSync 0, .enter 0, .acquireAsync 1 0, .acquireAsync 2 1, .acquireSync 3,
              .cancel 1, .release 0, .setResult 1, .resume 2, .release 2, .takeSync 3]
          = some final
        ∧ final.clients 3 = .syncTaken
        ∧ ∀ client, final.Owns client → client = 3 := by
  have reached
      : Transition.run step (.initial : State Nat)
          [.acquireSync 0, .enter 0, .acquireAsync 1 0, .acquireAsync 2 1, .acquireSync 3,
            .cancel 1, .release 0, .setResult 1, .resume 2, .release 2, .takeSync 3]
        = some _ :=
    rfl
  exact ⟨_, reached, rfl,
    fun client owns => (lock_exclusive reached).1 client 3 owns trivial⟩

end Aiodrive.ThreadsafeLock
