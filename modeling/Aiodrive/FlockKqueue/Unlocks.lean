import Aiodrive.FlockKqueue.Model

/-! No unlock is missed by a call of `flock_kqueue()` that waits. The registration comes before
the attempt in the loop, so that an unlock after this attempt is an event in the queue, and
stays one until the reader callback presses the button that the call waits for.
-/

namespace Aiodrive.FlockKqueue

variable {κ : Type*} {exclusive : Bool} {state next : State κ} {event : Event κ}

-----------------------------------------------------------------------------------------
-- A call that rests
-----------------------------------------------------------------------------------------

/-- The call has failed to take the lock, and nothing is on its way that resumes it, unless an
event is pending.
-/
def State.Rests (state : State κ) : Prop :=
  match state.place with
  | .refused => True
  | .suspended waiter => state.button.Asleep waiter
  | .entering | .registering | .retrying | .inside | .left => False

theorem rests_of_refused (here : state.place = .refused) : state.Rests := by
  simp [State.Rests, here]

theorem rests_iff_asleep {waiter : Button.Waiter} (here : state.place = .suspended waiter)
    : state.Rests ↔ state.button.Asleep waiter := by
  simp [State.Rests, here]

/-- The call watches the file from the first iteration of its loop on, and awaits a future that its
button has or had.
-/
structure Watching (state : State κ) : Prop where
  retrying : state.place = .retrying → state.registered = true
  refused : state.place = .refused → state.registered = true
  suspended
    : ∀ waiter,
        state.place = .suspended waiter → state.registered = true ∧ state.button.Holds waiter

theorem watching_initial (holders : List (κ × LockMode)) : Watching (.initial holders) where
  retrying := nofun
  refused := nofun
  suspended := nofun

theorem Watching.registered_of_rests (watching : Watching state) (rests : state.Rests)
    : state.registered = true := by
  unfold State.Rests at rests
  split at rests
  · rename_i here
    exact watching.refused here
  · rename_i waiter here
    exact (watching.suspended waiter here).1
  all_goals exact rests.elim

/-- A call that is suspended, or past its first attempt in the loop, watches the file. -/
theorem Watching.of_place (registered : state.registered = true)
    (holds : ∀ waiter, state.place = .suspended waiter → state.button.Holds waiter)
    : Watching state :=
  ⟨fun _ => registered, fun _ => registered, fun waiter here => ⟨registered, holds waiter here⟩⟩

/-- A call that is not in its loop has nothing to watch. -/
theorem Watching.outside
    (outside
      : state.place = .entering
        ∨ state.place = .registering
        ∨ state.place = .inside
        ∨ state.place = .left)
    : Watching state := by
  rcases outside with here | here | here | here
  all_goals exact ⟨by simp [here], by simp [here], by simp [here]⟩

variable [DecidableEq κ]

/-- One step keeps the call watching. -/
theorem Watching.step (watching : Watching state)
    (stepped : FlockKqueue.step exclusive state event = some next)
    : Watching next := by
  cases move_of_step stepped with
  | locks | unlocks => exact ⟨watching.retrying, watching.refused, watching.suspended⟩
  | enters | blocks | obtains | exits => exact .outside (by simp)
  | fails here taken => exact .of_place (watching.retrying here) (by simp)
  | registers here => exact .of_place rfl (by simp)
  | suspends here =>
      refine .of_place (watching.refused here) (fun waiter suspended => ?_)
      obtain rfl := Place.suspended.inj suspended
      exact Button.holds_wait state.button
  | calls here pending =>
      obtain ⟨registered, -⟩ := watching.suspended _ here
      refine .of_place registered (fun waiter suspended => ?_)
      exact (watching.suspended waiter suspended).2.press
  | wakes here called =>
      obtain ⟨registered, -⟩ := watching.suspended _ here
      refine .of_place registered (fun waiter suspended => ?_)
      obtain rfl := Place.suspended.inj suspended
      exact Button.Holds.innerCallback called
  | resumes here done => exact .of_place (watching.suspended _ here).1 (by simp)

/-- What leads to a call that rests: an unlock, whose event is pending; an attempt that failed; or a
step of a call that rested already, which was neither.
-/
theorem Watching.rests_step (watching : Watching state)
    (stepped : FlockKqueue.step exclusive state event = some next) (rests : next.Rests)
    : next.eventPending = true
      ∨ event = .attempts
        ∧ state.free (lockMode exclusive) = false
        ∧ next.holders = state.holders
      ∨ state.Rests
        ∧ next.eventPending = state.eventPending
        ∧ event ≠ .attempts
        ∧ (∀ process, event ≠ .unlocks process) := by
  cases move_of_step stepped with
  | locks admitted => exact .inr (.inr ⟨rests, rfl, nofun, nofun⟩)
  | unlocks held =>
      have registered : state.registered = true := watching.registered_of_rests rests
      exact .inl (by simp [registered])
  | enters | blocks | obtains | registers | exits => contradiction
  | fails here taken => exact .inr (.inl ⟨rfl, taken, rfl⟩)
  | suspends here => exact .inr (.inr ⟨rests_of_refused here, rfl, nofun, nofun⟩)
  | @calls waiter here pending =>
      obtain ⟨-, holds⟩ := watching.suspended waiter here
      have asleep : state.button.press.Asleep waiter := by simpa [State.Rests, here] using rests
      exact absurd asleep holds.not_asleep_press
  | wakes here called => exact absurd rests (Button.not_asleep_of_innerCallback called)
  | resumes here done => contradiction

-----------------------------------------------------------------------------------------
-- What happened since the last attempt
-----------------------------------------------------------------------------------------

/-- The last attempt of the schedule failed, since other processes had the lock, and no process has
unlocked the file since.
-/
def QuietSinceFailure (exclusive : Bool) (start : State κ) (events : List (Event κ)) : Prop :=
  ∃ earlier later before,
    events = earlier ++ .attempts :: later
    ∧ Transition.run (step exclusive) start earlier = some before
    ∧ before.free (lockMode exclusive) = false
    ∧ ∀ event ∈ later, event ≠ .attempts ∧ ∀ process, event ≠ .unlocks process

/-- An attempt that fails. -/
theorem quietSinceFailure_concat {start : State κ} {past : List (Event κ)}
    (reached : Transition.run (step exclusive) start past = some state)
    (taken : state.free (lockMode exclusive) = false)
    : QuietSinceFailure exclusive start (past ++ [.attempts]) :=
  ⟨past, [], state, rfl, reached, taken, nofun⟩

/-- An event that is no attempt and no unlock. -/
theorem QuietSinceFailure.concat {start : State κ} {past : List (Event κ)}
    (quiet : QuietSinceFailure exclusive start past)
    (other : event ≠ .attempts ∧ ∀ process, event ≠ .unlocks process)
    : QuietSinceFailure exclusive start (past ++ [event]) := by
  obtain ⟨earlier, later, before, rfl, reached, taken, quiet⟩ := quiet
  refine ⟨earlier, later ++ [event], before, by simp, reached, taken, ?_⟩
  exact List.forall_mem_append.mpr ⟨quiet, by simpa using other⟩

/-- A call that rests has an event pending, or nothing to learn of. -/
structure Informed (exclusive : Bool) (start : State κ) (past : List (Event κ)) (state : State κ)
    : Prop where
  reached : Transition.run (step exclusive) start past = some state
  watching : Watching state
  resting : state.Rests → state.eventPending = true ∨ QuietSinceFailure exclusive start past

/-- One step keeps a call informed. -/
theorem Informed.step {start : State κ} {past : List (Event κ)}
    (informed : Informed exclusive start past state)
    (stepped : FlockKqueue.step exclusive state event = some next)
    : Informed exclusive start (past ++ [event]) next where
  reached := Transition.run_concat informed.reached stepped
  watching := informed.watching.step stepped
  resting := by
    intro rests
    rcases informed.watching.rests_step stepped rests with
      pending | ⟨rfl, taken, -⟩ | ⟨rested, same, other⟩
    · exact .inl pending
    · exact .inr (quietSinceFailure_concat informed.reached taken)
    · rcases informed.resting rested with pending | quiet
      · exact .inl (same.trans pending)
      · exact .inr (quiet.concat other)

/-- `flock_kqueue()` misses no unlock: a call that is suspended on the button with no wake-up in
flight and no event pending failed at its last attempt, and the file has not been unlocked
since.
-/
theorem misses_no_unlock {holders : List (κ × LockMode)} {events : List (Event κ)}
    {waiter : Button.Waiter}
    (reached : Transition.run (step exclusive) (.initial holders) events = some state)
    (suspended : state.place = .suspended waiter) (asleep : state.button.Asleep waiter)
    (nothing : state.eventPending = false)
    : QuietSinceFailure exclusive (.initial holders) events := by
  have informed : Informed exclusive (.initial holders) events state :=
    Transition.run_preserves_history
      (fun _ _ _ _ informed stepped => Informed.step informed stepped)
      ⟨rfl, watching_initial holders, nofun⟩ reached
  rcases informed.resting ((rests_iff_asleep suspended).mpr asleep) with pending | quiet
  · simp [nothing] at pending
  · exact quiet

/-- A call that waits for a reader, while another reader has come and gone. -/
theorem misses_no_unlock_ofReader
    : ∃ state : State Nat, ∃ waiter,
        let events : List (Event Nat) :=
          [.attempts, .registers, .locks 1 .shared, .attempts, .suspends, .unlocks 1, .calls,
            .wakes, .resumes, .attempts, .suspends]
        Transition.run (step true) (.initial [(0, .shared)]) events = some state
        ∧ state.place = .suspended waiter
        ∧ QuietSinceFailure true (.initial [(0, .shared)]) events := by
  let events : List (Event Nat) :=
    [.attempts, .registers, .locks 1 .shared, .attempts, .suspends, .unlocks 1, .calls, .wakes,
      .resumes, .attempts, .suspends]
  have reached : Transition.run (step true) (.initial [(0, .shared)]) events = some _ := rfl
  exact ⟨_, _, reached, rfl, misses_no_unlock reached rfl (by decide) rfl⟩

-----------------------------------------------------------------------------------------
-- The lock that the call waits for
-----------------------------------------------------------------------------------------

/-- A process takes a lock while it has one: the kernel exchanges the two, and posts no event. -/
def Exchanges (state : State κ) (event : Event κ) : Prop :=
  ∃ process mode, event = .locks process mode ∧ process ∈ state.holders.map Prod.fst

/-- Other processes that have no lock to exchange leave less room. -/
theorem free_locks {process : κ} {mode : LockMode} (keeps : ¬Exchanges state (.locks process mode))
    {wanted : LockMode} (taken : state.free wanted = false)
    : { state with holders := (process, mode) :: state.others process }.free wanted = false := by
  have same : state.others process = state.holders := by
    refine List.filter_eq_self.mpr (fun held member => decide_eq_true (fun own => ?_))
    exact keeps ⟨process, mode, rfl, List.mem_map.mpr ⟨held, member, own⟩⟩
  rw [State.free] at taken ⊢
  simp [same, taken]

/-- A call that rests has an event pending, or finds the lock taken. -/
structure Excluded (exclusive : Bool) (state : State κ) : Prop where
  watching : Watching state
  resting : state.Rests → state.eventPending = true ∨ state.free (lockMode exclusive) = false

/-- A step that exchanges no locks keeps a call excluded. -/
theorem Excluded.step (excluded : Excluded exclusive state) (keeps : ¬Exchanges state event)
    (stepped : FlockKqueue.step exclusive state event = some next)
    : Excluded exclusive next where
  watching := excluded.watching.step stepped
  resting := by
    intro rests
    rcases excluded.watching.rests_step stepped rests with
      pending | ⟨-, taken, same⟩ | ⟨rested, same, other⟩
    · exact .inl pending
    · exact .inr (by rw [State.free, same]; exact taken)
    · rcases excluded.resting rested with pending | taken
      · exact .inl (same.trans pending)
      · right
        cases move_of_step stepped with
        | locks admitted => exact free_locks keeps taken
        | unlocks held => exact absurd rfl (other.2 _)
        | enters | blocks | obtains | fails | registers | suspends | calls | wakes | resumes
        | exits => exact taken

/-- Unless processes exchange their locks, a call that is suspended with no wake-up in flight and no
event pending could not take the lock.
-/
theorem taken_of_asleep {holders : List (κ × LockMode)} {events : List (Event κ)}
    {waiter : Button.Waiter}
    (reached : Transition.run (step exclusive) (.initial holders) events = some state)
    (keep : Transition.Meets (step exclusive) (fun state event => ¬Exchanges state event)
      (.initial holders) events)
    (suspended : state.place = .suspended waiter) (asleep : state.button.Asleep waiter)
    (nothing : state.eventPending = false)
    : state.free (lockMode exclusive) = false := by
  have excluded : Excluded exclusive state :=
    Transition.run_preserves_of_meets
      (fun _ _ _ excluded keeps stepped => Excluded.step excluded keeps stepped)
      ⟨watching_initial holders, nofun⟩ keep reached
  rcases excluded.resting ((rests_iff_asleep suspended).mpr asleep) with pending | taken
  · simp [nothing] at pending
  · exact taken

end Aiodrive.FlockKqueue
