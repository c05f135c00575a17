import Aiodrive.ThreadsafeLock.Model

/-! The invariant of a `ThreadsafeLock`, in three parts: who owns it, who is counted in
`_sync_waiter_count`, and who waits in `_waiters`. The steps of `acquire_sync()` keep it.
-/

namespace Aiodrive.ThreadsafeLock

variable {κ : Type*} {state next : State κ}

/-- `_sync_lock` stands for the ownership of the lock. -/
structure Exclusive (state : State κ) : Prop where
  free : state.syncLock = false → ∀ client, ¬state.Owns client
  unique : ∀ client other, state.Owns client → state.Owns other → client = other

/-- `_sync_waiter_count` counts the clients between the two blocks of `acquire_sync()`, and the
lock is unlocked only while `_sync_lock` is free and nobody is there to take it.
-/
structure Counted (state : State κ) : Prop where
  counted
    : ∃ waiting : List κ,
        waiting.Nodup
        ∧ (∀ client,
            client ∈ waiting
            ↔ state.clients client = .syncWaiting ∨ state.clients client = .syncTaken)
        ∧ state.syncWaiterCount = waiting.length
  unlocked : state.locked = false → state.syncLock = false ∧ state.syncWaiterCount = 0
  passed : state.locked = true → state.syncLock = false → state.syncWaiterCount ≠ 0
  entering : ∀ client, state.clients client = .entering ↔ state.stateLock = some client
  opened : ∀ client, state.stateLock = some client → state.locked = false

/-- `_waiters` holds futures that the lock was not handed to, each with its task unless it was
cancelled, and no two tasks await one future.
-/
structure Queued (state : State κ) : Prop where
  fresh : ∀ future, state.futureCount ≤ future → state.futures future = .pending
  scheduled : ∀ future ∈ state.scheduled, future < state.futureCount
  awaited
    : ∀ client future mustCancel,
        state.clients client = .asyncWaiting future mustCancel
        → future < state.futureCount
          ∧ (mustCancel = true → (state.futures future).done = true)
  distinct
    : ∀ client other future mustCancel mustCancel',
        state.clients client = .asyncWaiting future mustCancel
        → state.clients other = .asyncWaiting future mustCancel'
        → client = other
  waiters
    : ∀ future ∈ state.waiters,
        future < state.futureCount
        ∧ ¬state.Handed future
        ∧ (state.futures future = .pending
          → ∃ client, state.clients client = .asyncWaiting future false)
  nodup : state.waiters.Nodup

structure Sound (state : State κ) : Prop
    extends Exclusive state, Counted state, Queued state

theorem sound_initial : Sound (.initial : State κ) :=
  {
    free := by simp [State.initial, State.Owns]
    unique := by simp [State.initial, State.Owns]
    counted := ⟨[], by simp [State.initial]⟩
    unlocked := by simp [State.initial]
    passed := by simp [State.initial]
    entering := by simp [State.initial]
    opened := by simp [State.initial]
    fresh := by simp [State.initial]
    scheduled := by simp [State.initial]
    awaited := by simp [State.initial]
    distinct := by simp [State.initial]
    waiters := by simp [State.initial]
    nodup := by simp [State.initial]
  }

/-- `_sync_lock` and the lock are locked while a client owns the lock. -/
theorem Sound.locked_of_owns (sound : Sound state) {client : κ} (owns : state.Owns client)
    : state.syncLock = true ∧ state.locked = true := by
  have held : state.syncLock = true := by
    by_contra free
    exact sound.free (by simpa using free) client owns
  refine ⟨held, ?_⟩
  by_contra unlocked
  have free := (sound.unlocked (by simpa using unlocked)).1
  simp [held] at free

-----------------------------------------------------------------------------------------
-- What keeps each part of the invariant
-----------------------------------------------------------------------------------------

/-- A step that makes no owner and does not release `_sync_lock` keeps the exclusion. -/
theorem Exclusive.shrink (exclusive : Exclusive state)
    (syncLock : next.syncLock = state.syncLock)
    (owners : ∀ client, next.Owns client → state.Owns client)
    : Exclusive next :=
  {
    free := fun isFree client owns =>
      exclusive.free (syncLock ▸ isFree) client (owners client owns)
    unique := fun client other owns otherOwns =>
      exclusive.unique client other (owners client owns) (owners other otherOwns)
  }

/-- A step after which `_sync_lock` is taken and at most one client owns the lock. -/
theorem Exclusive.single (owner : κ) (taken : next.syncLock = true)
    (owners : ∀ client, next.Owns client → client = owner)
    : Exclusive next :=
  {
    free := by simp [taken]
    unique := fun client other owns otherOwns =>
      (owners client owns).trans (owners other otherOwns).symm
  }

/-- The places at which a client can be inside `acquire_sync()`. -/
def Client.InAcquireSync : Client → Prop
  | .entering | .syncWaiting | .syncTaken => True
  | .idle | .asyncWaiting _ _ | .holding => False

/-- A step of a client that is not in `acquire_sync()` leaves the counts alone. -/
theorem Counted.congr (counted : Counted state) (locked : next.locked = state.locked)
    (syncLock : next.syncLock = state.syncLock)
    (count : next.syncWaiterCount = state.syncWaiterCount)
    (stateLock : next.stateLock = state.stateLock)
    (clients
      : ∀ client place,
          place.InAcquireSync → (next.clients client = place ↔ state.clients client = place))
    : Counted next := by
  obtain ⟨waiting, nodup, members, length⟩ := counted.counted
  exact {
    counted := by
      refine ⟨waiting, nodup, fun client => ?_, count.trans length⟩
      rw [members client, clients client .syncWaiting trivial, clients client .syncTaken trivial]
    unlocked := by simpa only [locked, syncLock, count] using counted.unlocked
    passed := by simpa only [locked, syncLock, count] using counted.passed
    entering := fun client => by
      rw [clients client .entering trivial, counted.entering client, stateLock]
    opened := by simpa only [locked, stateLock] using counted.opened
  }

/-- A step that neither adds to `_waiters` nor touches a task in `await future` leaves the
queue alone.
-/
theorem Queued.congr (queued : Queued state) (futures : next.futures = state.futures)
    (futureCount : next.futureCount = state.futureCount)
    (scheduled : next.scheduled = state.scheduled) (waiters : next.waiters = state.waiters)
    (clients
      : ∀ client future mustCancel,
          next.clients client = .asyncWaiting future mustCancel
          ↔ state.clients client = .asyncWaiting future mustCancel)
    : Queued next :=
  {
    fresh := by simpa only [futures, futureCount] using queued.fresh
    scheduled := by simpa only [scheduled, futureCount] using queued.scheduled
    awaited := by simpa only [clients, futures, futureCount] using queued.awaited
    distinct := by simpa only [clients] using queued.distinct
    waiters := by
      simpa only [clients, futures, futureCount, scheduled, waiters, State.Handed]
        using queued.waiters
    nodup := waiters ▸ queued.nodup
  }

/-- A release that hands the lock to a future takes it, and those it passed over, out of
`_waiters`.
-/
theorem Queued.handOver (queued : Queued state) {future : Nat} {waiters : List Nat}
    (member : future ∈ state.waiters) (absent : future ∉ waiters)
    (shorter : waiters.Sublist state.waiters)
    : Queued { state with waiters, scheduled := state.scheduled ++ [future] } :=
  {
    fresh := queued.fresh
    scheduled := by
      intro other scheduled
      rcases List.mem_append.mp scheduled with old | new
      · exact queued.scheduled other old
      · obtain rfl := List.mem_singleton.mp new
        exact (queued.waiters other member).1
    awaited := queued.awaited
    distinct := queued.distinct
    waiters := by
      intro other left
      obtain ⟨created, unhanded, listening⟩ := queued.waiters other (shorter.subset left)
      refine ⟨created, ?_, listening⟩
      have different : other ≠ future := fun same => absent (same ▸ left)
      simpa [State.Handed, different] using unhanded
    nodup := shorter.nodup queued.nodup
  }

/-- A release that finds nobody to hand the lock to empties `_waiters`. -/
theorem Queued.giveBack (queued : Queued state) {locked syncLock : Bool}
    : Queued { state with waiters := [], locked, syncLock } :=
  {
    fresh := queued.fresh
    scheduled := queued.scheduled
    awaited := queued.awaited
    distinct := queued.distinct
    waiters := by simp
    nodup := List.nodup_nil
  }

/-- Clients that stay where they are become owners only by a hand-off. -/
theorem owns_of_handed {client : κ} (same : next.clients = state.clients)
    (handed : ∀ future, next.Handed future → state.Handed future) (owns : next.Owns client)
    : state.Owns client := by
  unfold State.Owns at owns ⊢
  rw [same] at owns
  cases place : state.clients client with
  | idle => simp [place] at owns
  | entering => simp [place] at owns
  | syncWaiting => simp [place] at owns
  | syncTaken => trivial
  | holding => trivial
  | asyncWaiting future mustCancel =>
      simp only [place] at owns
      exact handed future owns

/-- A release changes nobody's place, and no loop. -/
theorem releaseAsync_frame (state : State κ)
    : state.releaseAsync.clients = state.clients
      ∧ state.releaseAsync.closedLoop = state.closedLoop := by
  unfold State.releaseAsync
  split <;> exact ⟨rfl, rfl⟩

variable [DecidableEq κ]

/-- A client that moves between two places changes nobody's being at a third one. -/
theorem clients_setClient_iff {client other : κ} {place third : Client}
    (before : state.clients client ≠ third) (after : place ≠ third)
    : (state.setClient client place).clients other = third ↔ state.clients other = third := by
  by_cases same : other = client
  · subst same
    simp [before, after]
  · simp [same]

/-- A client that moves outside `acquire_sync()` changes nobody's being in there. -/
theorem inAcquireSync_setClient_iff {client other : κ} {place third : Client}
    (before : ¬(state.clients client).InAcquireSync) (after : ¬place.InAcquireSync)
    (inside : third.InAcquireSync)
    : (state.setClient client place).clients other = third ↔ state.clients other = third :=
  clients_setClient_iff (fun same => before (same ▸ inside)) (fun same => after (same ▸ inside))

/-- Another client's move changes no ownership. -/
theorem owns_setClient_iff {client other : κ} {place : Client} (different : other ≠ client)
    : (state.setClient client place).Owns other ↔ state.Owns other := by
  simp [State.Owns, different]

/-- A client that moves to a place outside the lock makes no owner. -/
theorem owns_of_setClient {client other : κ} {place : Client}
    (outside : place = .idle ∨ place = .entering ∨ place = .syncWaiting)
    (owns : (state.setClient client place).Owns other)
    : other ≠ client ∧ state.Owns other := by
  by_cases same : other = client
  · rcases outside with rfl | rfl | rfl <;> simp [State.Owns, same] at owns
  · exact ⟨same, (owns_setClient_iff same).mp owns⟩

-----------------------------------------------------------------------------------------
-- What a step can do
-----------------------------------------------------------------------------------------

/-- The steps of the clients and of the event loops, with what each of them takes. -/
inductive Move (state : State κ) : Event κ → State κ → Prop
  | acquiresSync {client : κ} (idle : state.clients client = .idle)
    (unheld : state.stateLock = none)
    : Move state (.acquireSync client) (state.acquireSync client)
  | acquiresAsync {client : κ} {loop : Nat} (idle : state.clients client = .idle)
    (unheld : state.stateLock = none) (opened : state.closedLoop loop = false)
    : Move state (.acquireAsync client loop) (state.acquireAsync client loop)
  | enters {client : κ} (entering : state.clients client = .entering)
    (free : state.syncLock = false)
    : Move state (.enter client)
        ({ state with syncLock := true, locked := true, stateLock := none }.setClient
          client .holding)
  | takesSync {client : κ} (waits : state.clients client = .syncWaiting)
    (free : state.syncLock = false)
    : Move state (.takeSync client) ({ state with syncLock := true }.setClient client .syncTaken)
  | lowersCount {client : κ} (taken : state.clients client = .syncTaken)
    (unheld : state.stateLock = none)
    : Move state (.lowerCount client)
        ({ state with syncWaiterCount := state.syncWaiterCount - 1 }.setClient client .holding)
  | releases {client : κ} (holding : state.clients client = .holding)
    (unheld : state.stateLock = none)
    : Move state (.release client) (state.releaseAsync.setClient client .idle)
  | setsResult {future : Nat} (scheduled : future ∈ state.scheduled)
    (opened : state.closedLoop (state.loopOf future) = false)
    : Move state (.setResult future) (state.setResult future)
  | closesLoop (loop : Nat)
    : Move state (.closeLoop loop)
        { state with closedLoop := Function.update state.closedLoop loop true }
  | cancels {client : κ} {future : Nat} {mustCancel : Bool}
    (waits : state.clients client = .asyncWaiting future mustCancel)
    : Move state (.cancel client) (state.cancel client future)
  | resumesCancelled {client : κ} {future : Nat} {mustCancel : Bool}
    (waits : state.clients client = .asyncWaiting future mustCancel)
    (done : (state.futures future).done = true)
    (opened : state.closedLoop (state.loopOf future) = false)
    (cancelled : mustCancel = true ∨ (state.futures future).isCancelled = true)
    : Move state (.resume client) (state.setClient client .idle)
  | resumesHolding {client : κ} {future : Nat}
    (waits : state.clients client = .asyncWaiting future false)
    (done : (state.futures future).done = true)
    (opened : state.closedLoop (state.loopOf future) = false)
    (notCancelled : (state.futures future).isCancelled = false)
    : Move state (.resume client) (state.setClient client .holding)

theorem move_of_step {event : Event κ} (stepped : step state event = some next)
    : Move state event next := by
  cases event with
  | closeLoop loop => exact Option.some.inj stepped ▸ .closesLoop loop
  | acquireSync client =>
      simp only [step] at stepped
      split_ifs at stepped with allowed
      exact Option.some.inj stepped ▸ .acquiresSync allowed.1 allowed.2
  | acquireAsync client loop =>
      simp only [step] at stepped
      split_ifs at stepped with allowed
      exact Option.some.inj stepped ▸ .acquiresAsync allowed.1 allowed.2.1 allowed.2.2
  | enter client =>
      simp only [step] at stepped
      split_ifs at stepped with allowed
      exact Option.some.inj stepped ▸ .enters allowed.1 allowed.2
  | takeSync client =>
      simp only [step] at stepped
      split_ifs at stepped with allowed
      exact Option.some.inj stepped ▸ .takesSync allowed.1 allowed.2
  | lowerCount client =>
      simp only [step] at stepped
      split_ifs at stepped with allowed
      exact Option.some.inj stepped ▸ .lowersCount allowed.1 allowed.2
  | release client =>
      simp only [step] at stepped
      split_ifs at stepped with allowed
      exact Option.some.inj stepped ▸ .releases allowed.1 allowed.2
  | setResult future =>
      simp only [step] at stepped
      split_ifs at stepped with allowed
      exact Option.some.inj stepped ▸ .setsResult allowed.1 allowed.2
  | cancel client =>
      simp only [step] at stepped
      split at stepped
      · rename_i waits
        exact Option.some.inj stepped ▸ .cancels waits
      all_goals contradiction
  | resume client =>
      simp only [step] at stepped
      split at stepped
      · rename_i future mustCancel waits
        split_ifs at stepped with allowed thrown
        · exact Option.some.inj stepped ▸ .resumesCancelled waits allowed.1 allowed.2 thrown
        · simp only [not_or, Bool.not_eq_true] at thrown
          obtain ⟨rfl, notCancelled⟩ := thrown
          exact Option.some.inj stepped ▸ .resumesHolding waits allowed.1 allowed.2 notCancelled
      all_goals contradiction

/-- A step moves no client but the one that takes it. -/
theorem step_clients_of_ne {event : Event κ} {other : κ}
    (stepped : step state event = some next) (different : event.client? ≠ some other)
    : next.clients other = state.clients other := by
  have moves {middle : State κ} {client : κ} {place : Client}
      (different : some client ≠ some other)
      : (middle.setClient client place).clients other = middle.clients other := by
    rw [State.clients_setClient, if_neg (fun same => different (congrArg some same.symm))]
  cases move_of_step stepped with
  | acquiresSync idle unheld =>
      unfold State.acquireSync
      split <;> exact moves different
  | acquiresAsync idle unheld opened =>
      unfold State.acquireAsync
      split <;> exact moves different
  | enters entering free => exact moves different
  | takesSync waits free => exact moves different
  | lowersCount taken unheld => exact moves different
  | releases holding unheld =>
      exact (moves different).trans (congrFun (releaseAsync_frame state).1 other)
  | setsResult scheduled opened => rfl
  | closesLoop loop => rfl
  | cancels waits =>
      unfold State.cancel
      split
      · exact moves different
      · rfl
  | resumesCancelled waits done opened cancelled => exact moves different
  | resumesHolding waits done opened notCancelled => exact moves different

/-- A closed loop stays closed. -/
theorem step_closedLoop {event : Event κ} {loop : Nat}
    (stepped : step state event = some next) (closed : state.closedLoop loop = true)
    : next.closedLoop loop = true := by
  cases move_of_step stepped with
  | acquiresSync idle unheld =>
      unfold State.acquireSync
      split <;> exact closed
  | acquiresAsync idle unheld opened =>
      unfold State.acquireAsync
      split <;> exact closed
  | enters entering free => exact closed
  | takesSync waits free => exact closed
  | lowersCount taken unheld => exact closed
  | releases holding unheld =>
      exact (congrFun (releaseAsync_frame state).2 loop).trans closed
  | setsResult scheduled opened => exact closed
  | closesLoop other =>
      by_cases same : loop = other
      · subst same
        exact Function.update_self ..
      · exact (Function.update_of_ne same ..).trans closed
  | cancels waits =>
      unfold State.cancel
      split <;> exact closed
  | resumesCancelled waits done opened cancelled => exact closed
  | resumesHolding waits done opened notCancelled => exact closed

-----------------------------------------------------------------------------------------
-- The steps of `acquire_sync()`
-----------------------------------------------------------------------------------------

/-- A client enters the block of `acquire` in which the lock is unlocked. -/
theorem Sound.begin (sound : Sound state) {client : κ} (idle : state.clients client = .idle)
    (unheld : state.stateLock = none) (unlocked : state.locked = false)
    : Sound ({ state with stateLock := some client }.setClient client .entering) := by
  obtain ⟨waiting, nodup, members, length⟩ := sound.counted
  exact {
    toExclusive :=
      sound.shrink rfl (fun other owns => (owns_of_setClient (by simp) owns).2)
    toQueued :=
      sound.toQueued.congr rfl rfl rfl rfl
        (fun other future mustCancel => clients_setClient_iff (by simp [idle]) (by simp))
    toCounted := {
      counted := by
        refine ⟨waiting, nodup, fun other => ?_, length⟩
        rw [members other, clients_setClient_iff (by simp [idle]) (by simp),
          clients_setClient_iff (by simp [idle]) (by simp)]
      unlocked := sound.unlocked
      passed := sound.passed
      entering := by
        intro other
        by_cases same : other = client
        · simp [same]
        · simp [same, sound.entering other, unheld, Ne.symm same]
      opened := fun _ _ => unlocked
    }
  }

theorem Sound.acquireSync (sound : Sound state) {client : κ}
    (idle : state.clients client = .idle) (unheld : state.stateLock = none)
    : Sound (state.acquireSync client) := by
  unfold State.acquireSync
  split
  case isFalse unlocked => exact sound.begin idle unheld (by simpa using unlocked)
  rename_i locked
  obtain ⟨waiting, nodup, members, length⟩ := sound.counted
  have absent : client ∉ waiting := by simp [members, idle]
  exact {
    toExclusive :=
      sound.shrink rfl (fun other owns => (owns_of_setClient (by simp) owns).2)
    toQueued :=
      sound.toQueued.congr rfl rfl rfl rfl
        (fun other future mustCancel => clients_setClient_iff (by simp [idle]) (by simp))
    toCounted := {
      counted := by
        refine ⟨client :: waiting, List.nodup_cons.mpr ⟨absent, nodup⟩, fun other => ?_, ?_⟩
        · by_cases same : other = client
          · simp [same]
          · simp [same, members]
        · simp [length]
      unlocked := fun unlocked => by simp [locked] at unlocked
      passed := fun _ _ => by
        simp only [State.syncWaiterCount_setClient]
        omega
      entering := fun other => by
        rw [clients_setClient_iff (by simp [idle]) (by simp)]
        exact sound.entering other
      opened := sound.opened
    }
  }

/-- While the lock is free, a client that moves is the only one that can own it then. -/
theorem Sound.eq_of_owns_setClient (sound : Sound state) (free : state.syncLock = false)
    {client other : κ} {place : Client} (owns : (state.setClient client place).Owns other)
    : other = client := by
  by_contra different
  exact sound.free free other ((owns_setClient_iff different).mp owns)

/-- `_sync_lock` is free while a client is at its acquisition under `_state_lock`. -/
theorem Sound.enter (sound : Sound state) {client : κ}
    (entering : state.clients client = .entering) (free : state.syncLock = false)
    : Sound ({ state with syncLock := true, locked := true, stateLock := none }.setClient
        client .holding) := by
  have here := (sound.entering client).mp entering
  obtain ⟨waiting, nodup, members, length⟩ := sound.counted
  exact {
    toQueued :=
      sound.toQueued.congr rfl rfl rfl rfl
        (fun other future mustCancel => clients_setClient_iff (by simp [entering]) (by simp))
    toExclusive :=
      Exclusive.single client rfl (fun other owns => sound.eq_of_owns_setClient free owns)
    toCounted := {
      counted := by
        refine ⟨waiting, nodup, fun other => ?_, length⟩
        rw [members other, clients_setClient_iff (by simp [entering]) (by simp),
          clients_setClient_iff (by simp [entering]) (by simp)]
      unlocked := by simp
      passed := by simp
      entering := by
        intro other
        by_cases same : other = client
        · simp [same]
        · simp [same, sound.entering other, here, Ne.symm same]
      opened := by simp
    }
  }

theorem Sound.takeSync (sound : Sound state) {client : κ}
    (waits : state.clients client = .syncWaiting) (free : state.syncLock = false)
    : Sound ({ state with syncLock := true }.setClient client .syncTaken) := by
  obtain ⟨waiting, nodup, members, length⟩ := sound.counted
  have member : client ∈ waiting := (members client).mpr (Or.inl waits)
  have positive := List.length_pos_of_mem member
  exact {
    toQueued :=
      sound.toQueued.congr rfl rfl rfl rfl
        (fun other future mustCancel => clients_setClient_iff (by simp [waits]) (by simp))
    toExclusive :=
      Exclusive.single client rfl (fun other owns => sound.eq_of_owns_setClient free owns)
    toCounted := {
      counted := by
        refine ⟨waiting, nodup, fun other => ?_, length⟩
        by_cases same : other = client
        · simp [same, member]
        · simp [same, members]
      unlocked := by
        intro unlocked
        have none := (sound.unlocked unlocked).2
        omega
      passed := by simp
      entering := fun other => by
        rw [clients_setClient_iff (by simp [waits]) (by simp)]
        exact sound.entering other
      opened := sound.opened
    }
  }

theorem Sound.lowerCount (sound : Sound state) {client : κ}
    (taken : state.clients client = .syncTaken)
    : Sound ({ state with syncWaiterCount := state.syncWaiterCount - 1 }.setClient
        client .holding) := by
  obtain ⟨waiting, nodup, members, length⟩ := sound.counted
  have member : client ∈ waiting := (members client).mpr (Or.inr taken)
  have owns : state.Owns client := by simp [State.Owns, taken]
  obtain ⟨held, locked⟩ := sound.locked_of_owns owns
  exact {
    toQueued :=
      sound.toQueued.congr rfl rfl rfl rfl
        (fun other future mustCancel => clients_setClient_iff (by simp [taken]) (by simp))
    toExclusive :=
      sound.shrink rfl (fun other otherOwns => by
        by_cases same : other = client
        · exact same ▸ owns
        · exact (owns_setClient_iff same).mp otherOwns)
    toCounted := {
      counted := by
        refine ⟨waiting.erase client, nodup.erase client, fun other => ?_, ?_⟩
        · by_cases same : other = client
          · simp [same, nodup.mem_erase_iff]
          · simp [same, nodup.mem_erase_iff, members]
        · have shorter := List.length_erase_of_mem member
          have positive := List.length_pos_of_mem member
          simp only [State.syncWaiterCount_setClient]
          omega
      unlocked := by simp [locked]
      passed := by simp [held]
      entering := fun other => by
        rw [clients_setClient_iff (by simp [taken]) (by simp)]
        exact sound.entering other
      opened := sound.opened
    }
  }

end Aiodrive.ThreadsafeLock
