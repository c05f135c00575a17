import Aiodrive.ThreadsafeCondition.Model
import Aiodrive.ThreadsafeLock.Exclusion
import Mathlib.Data.Fintype.Basic

/-! The waiters that `notify()` reaches. The lock keeps new waiters out of the way of a
notifier, but not those that have released it and are not in `_waiters` yet: a notifier that
meets none of them wakes everybody.
-/

namespace Aiodrive.ThreadsafeCondition

variable {κ : Type*} {state next : State κ}

-----------------------------------------------------------------------------------------
-- Waking is for good
-----------------------------------------------------------------------------------------

/-- A waiter that a pass of the `for` in `notify()` has met is awake. -/
theorem awake_wake (state : State κ) (waiter : Nat) : (state.wake waiter).Awake waiter := by
  unfold State.wake
  split
  · exact .inl (by simp)
  · rename_i loop found
    split
    · rename_i cancelled
      have same := FutureState.isCancelled_iff.mp cancelled
      exact .inl (by simp [same])
    · split
      · rename_i closed
        exact .inr (.inr ⟨loop, found, closed⟩)
      · exact .inr (.inl (by simp))

/-- A done waiter stays done when another one, or the same, becomes done. -/
theorem done_update {futures : Nat → FutureState Empty Unit} {waiter other : Nat}
    {ended : FutureState Empty Unit} (isDone : ended.done = true)
    (done : (futures other).done = true)
    : (Function.update futures waiter ended other).done = true := by
  by_cases same : other = waiter
  · subst same
    simpa using isDone
  · simpa [same] using done

/-- Waking touches the waiter alone. -/
theorem wake_frame (state : State κ) (waiter : Nat)
    : (state.wake waiter).lock = state.lock
      ∧ (state.wake waiter).places = state.places
      ∧ (state.wake waiter).waiters = state.waiters
      ∧ (state.wake waiter).waiterCount = state.waiterCount := by
  unfold State.wake
  split
  · exact ⟨rfl, rfl, rfl, rfl⟩
  · split
    · exact ⟨rfl, rfl, rfl, rfl⟩
    · split <;> exact ⟨rfl, rfl, rfl, rfl⟩

theorem State.Awake.wake {waiter other : Nat} (awake : state.Awake other)
    : (state.wake waiter).Awake other := by
  unfold State.wake
  split
  · rcases awake with done | scheduled | closed
    · exact .inl (done_update rfl done)
    · exact .inr (.inl scheduled)
    · exact .inr (.inr closed)
  · split
    · exact awake
    · split
      · exact awake
      · rcases awake with done | scheduled | closed
        · exact .inl done
        · exact .inr (.inl (List.mem_append_left _ scheduled))
        · exact .inr (.inr closed)

theorem State.Awake.setResult {waiter other : Nat} (awake : state.Awake other)
    : (state.setResult waiter).Awake other := by
  have ended : ((state.setResult waiter).futures waiter).done = true := by
    unfold State.setResult
    simp only
    split
    · assumption
    · simp
  rcases awake with done | scheduled | closed
  · left
    unfold State.setResult
    simp only
    split
    · exact done
    · exact done_update rfl done
  · by_cases same : other = waiter
    · exact .inl (same ▸ ended)
    · exact .inr (.inl ((List.mem_erase_of_ne same).mpr scheduled))
  · exact .inr (.inr closed)

theorem State.Awake.cancel {waiter other : Nat} (awake : state.Awake other)
    : { state with futures := Function.update state.futures waiter .cancelled }.Awake other := by
  rcases awake with done | scheduled | closed
  · exact .inl (done_update rfl done)
  · exact .inr (.inl scheduled)
  · exact .inr (.inr closed)

-----------------------------------------------------------------------------------------
-- What a notifier and its waiters rely on
-----------------------------------------------------------------------------------------

/-- What holds while no notifier copies `_waiters` next to a client that is not in it yet. Who
waits does not have the lock and who notifies has it; a blocked client is in `_waiters` or
awake, and while a notifier is at work, in the rest of its copy or awake.
-/
structure Sound (state : State κ) : Prop where
  lock : ThreadsafeLock.Sound state.lock
  idle
    : ∀ client, (state.places client).waiting = true → state.lock.clients client = .idle
  holds
    : ∀ client left,
        state.places client = .notifying left → state.lock.clients client = .holding
  fresh
    : ∀ client waiter, state.places client = .blocked waiter → waiter < state.waiterCount
  registered
    : ∀ client waiter,
        state.places client = .blocked waiter → waiter ∈ state.waiters ∨ state.Awake waiter
  copied
    : ∀ client left,
        state.places client = .notifying left
        → (∀ other loop, state.places other ≠ .released loop)
          ∧ ∀ other waiter,
              state.places other = .blocked waiter → waiter ∈ left ∨ state.Awake waiter

theorem sound_initial : Sound (.initial : State κ) where
  lock := ThreadsafeLock.sound_initial
  idle := by simp [State.initial, Place.waiting]
  holds := by simp [State.initial]
  fresh := by simp [State.initial]
  registered := by simp [State.initial]
  copied := by simp [State.initial]

/-- While a client notifies, no other client holds the lock. -/
theorem Sound.eq_of_notifying (sound : Sound state) {client other : κ} {left : List Nat}
    (notifying : state.places client = .notifying left)
    (holding : state.lock.clients other = .holding)
    : other = client :=
  sound.lock.eq_of_holding (sound.holds client left notifying)
    (by simp [ThreadsafeLock.State.Owns, holding])

/-- A step that only wakes waiters. -/
theorem Sound.grow (sound : Sound state) (lock : next.lock = state.lock)
    (places : next.places = state.places) (waiters : next.waiters = state.waiters)
    (waiterCount : next.waiterCount = state.waiterCount)
    (awake : ∀ waiter, state.Awake waiter → next.Awake waiter)
    : Sound next where
  lock := lock ▸ sound.lock
  idle := by simpa only [lock, places] using sound.idle
  holds := by simpa only [lock, places] using sound.holds
  fresh := by simpa only [places, waiterCount] using sound.fresh
  registered := by
    intro other waiter blocked
    rw [places] at blocked
    rw [waiters]
    exact (sound.registered other waiter blocked).imp_right (awake waiter)
  copied := by
    intro other left notifying
    rw [places] at notifying
    obtain ⟨noWindow, covered⟩ := sound.copied other left notifying
    refine ⟨by simpa only [places] using noWindow, ?_⟩
    intro third waiter blocked
    rw [places] at blocked
    exact (covered third waiter blocked).imp_right (awake waiter)

variable [DecidableEq κ]

/-- A step of the lock wakes nobody up again: a closed loop stays closed. -/
theorem State.Awake.setLock {event : ThreadsafeLock.Event κ}
    {lock : ThreadsafeLock.State κ} {waiter : Nat} (awake : state.Awake waiter)
    (stepped : ThreadsafeLock.step state.lock event = some lock)
    : (state.setLock lock).Awake waiter := by
  rcases awake with done | scheduled | ⟨loop, found, closed⟩
  · exact .inl done
  · exact .inr (.inl scheduled)
  · exact .inr (.inr ⟨loop, found, ThreadsafeLock.step_closedLoop stepped closed⟩)

/-- A new waiter changes nothing for those that exist. -/
theorem State.Awake.register {client : κ} {loop : Option Nat} {waiter : Nat}
    (awake : state.Awake waiter) (exists' : waiter < state.waiterCount)
    : (state.register client loop).Awake waiter := by
  rcases awake with done | scheduled | ⟨own, found, closed⟩
  · exact .inl done
  · exact .inr (.inl scheduled)
  · refine .inr (.inr ⟨own, ?_, closed⟩)
    exact (Function.update_of_ne (Nat.ne_of_lt exists') ..).trans found

-----------------------------------------------------------------------------------------
-- What a step can do
-----------------------------------------------------------------------------------------

/-- The steps of the clients and of the event loops, with what each of them takes. -/
inductive Move (state : State κ) : Event κ → State κ → Prop
  | locks {event : ThreadsafeLock.Event κ} {lock : ThreadsafeLock.State κ}
    (stepped : ThreadsafeLock.step state.lock event = some lock)
    (outside : ∀ client, event.client? = some client → state.places client = .outside)
    : Move state (.lock event) (state.setLock lock)
  | releases {client : κ} {loop : Option Nat} {lock : ThreadsafeLock.State κ}
    (outside : state.places client = .outside)
    (stepped : ThreadsafeLock.step state.lock (.release client) = some lock)
    : Move state (.release client loop) ((state.setLock lock).setPlace client (.released loop))
  | registers {client : κ} {loop : Option Nat} (here : state.places client = .released loop)
    : Move state (.register client) (state.register client loop)
  | leaves {client : κ} {waiter : Nat} {lock : ThreadsafeLock.State κ}
    (here : state.places client = .blocked waiter)
    (done : (state.futures waiter).done = true)
    (stepped
      : ThreadsafeLock.step state.lock (reacquire client (state.loopOf waiter)) = some lock)
    : Move state (.leave client) ((state.setPlace client .outside).setLock lock)
  | notifies {client : κ} {copy : List Nat} (outside : state.places client = .outside)
    (holding : state.lock.clients client = .holding) (copied : copy.Perm state.waiters)
    : Move state (.notify client copy) (state.setPlace client (.notifying copy))
  | wakes {client : κ} {waiter : Nat} {left : List Nat}
    (here : state.places client = .notifying (waiter :: left))
    : Move state (.wakeNext client) ((state.wake waiter).setPlace client (.notifying left))
  | clears {client : κ} (here : state.places client = .notifying [])
    : Move state (.clear client) ({ state with waiters := [] }.setPlace client .outside)
  | setsResult {waiter : Nat} (scheduled : waiter ∈ state.scheduled)
    : Move state (.setResult waiter) (state.setResult waiter)
  | cancelsDone {client : κ} {waiter : Nat} (here : state.places client = .blocked waiter)
    (done : (state.futures waiter).done = true)
    : Move state (.cancel client) state
  | cancels {client : κ} {waiter : Nat} (here : state.places client = .blocked waiter)
    (pending : (state.futures waiter).done = false)
    : Move state (.cancel client)
        { state with futures := Function.update state.futures waiter .cancelled }

theorem move_of_step {event : Event κ} (stepped : step state event = some next)
    : Move state event next := by
  cases event with
  | lock event =>
      simp only [step] at stepped
      cases taker : event.client? with
      | none =>
          simp only [taker, Option.map_eq_some_iff] at stepped
          obtain ⟨lock, stepped, rfl⟩ := stepped
          exact .locks stepped (by simp [taker])
      | some client =>
          simp only [taker, Option.ite_none_right_eq_some, Option.map_eq_some_iff] at stepped
          obtain ⟨outside, lock, stepped, rfl⟩ := stepped
          refine .locks stepped (fun other same => ?_)
          exact Option.some.inj (taker.symm.trans same) ▸ outside
  | release client loop =>
      simp only [step, Option.ite_none_right_eq_some, Option.map_eq_some_iff] at stepped
      obtain ⟨outside, lock, stepped, rfl⟩ := stepped
      exact .releases outside stepped
  | register client =>
      simp only [step] at stepped
      split at stepped
      · rename_i here
        exact Option.some.inj stepped ▸ .registers here
      all_goals contradiction
  | leave client =>
      simp only [step] at stepped
      split at stepped
      · rename_i here
        simp only [Option.ite_none_right_eq_some, Option.map_eq_some_iff] at stepped
        obtain ⟨done, lock, stepped, rfl⟩ := stepped
        exact .leaves here done stepped
      all_goals contradiction
  | notify client copy =>
      simp only [step, Option.ite_none_right_eq_some] at stepped
      obtain ⟨⟨outside, holding, copied⟩, same⟩ := stepped
      exact Option.some.inj same ▸ .notifies outside holding copied
  | wakeNext client =>
      simp only [step] at stepped
      split at stepped
      · rename_i here
        exact Option.some.inj stepped ▸ .wakes here
      all_goals contradiction
  | clear client =>
      simp only [step] at stepped
      split at stepped
      · rename_i here
        exact Option.some.inj stepped ▸ .clears here
      all_goals contradiction
  | setResult waiter =>
      simp only [step, Option.ite_none_right_eq_some] at stepped
      obtain ⟨⟨scheduled, _⟩, same⟩ := stepped
      exact Option.some.inj same ▸ .setsResult scheduled
  | cancel client =>
      simp only [step] at stepped
      split at stepped
      · rename_i here
        split_ifs at stepped with async done
        · exact Option.some.inj stepped ▸ .cancelsDone here done
        · exact Option.some.inj stepped ▸ .cancels here (by simpa using done)
      all_goals contradiction

/-- A step of the lock by a client outside the condition. -/
theorem Sound.setLock {event : ThreadsafeLock.Event κ} {lock : ThreadsafeLock.State κ}
    (sound : Sound state) (stepped : ThreadsafeLock.step state.lock event = some lock)
    (outside : ∀ client, event.client? = some client → state.places client = .outside)
    : Sound (state.setLock lock) := by
  have unmoved (client : κ) (inside : state.places client ≠ .outside)
      : lock.clients client = state.lock.clients client :=
    ThreadsafeLock.step_clients_of_ne stepped (fun same => inside (outside client same))
  exact {
    lock := ThreadsafeLock.step_sound sound.lock stepped
    idle := by
      intro client waiting
      have inside : state.places client ≠ .outside := by
        intro outside
        have waiting : (state.places client).waiting = true := waiting
        simp [outside, Place.waiting] at waiting
      exact (unmoved client inside).trans (sound.idle client waiting)
    holds := by
      intro client left here
      have here : state.places client = .notifying left := here
      exact (unmoved client (by simp [here])).trans (sound.holds client left here)
    fresh := sound.fresh
    registered := fun client waiter here =>
      (sound.registered client waiter here).imp_right (fun awake => awake.setLock stepped)
    copied := fun client left here =>
      ⟨(sound.copied client left here).1, fun other waiter blocked =>
        ((sound.copied client left here).2 other waiter blocked).imp_right
          (fun awake => awake.setLock stepped)⟩
  }

/-- A client is where it has moved to, or it has not moved. -/
theorem places_setPlace_cases {client other : κ} {place here : Place}
    (found : (state.setPlace client place).places other = here)
    : other = client ∧ place = here ∨ other ≠ client ∧ state.places other = here := by
  rw [State.places_setPlace] at found
  by_cases same : other = client
  · exact .inl ⟨same, by simpa [same] using found⟩
  · exact .inr ⟨same, by simpa [same] using found⟩

/-- A client that changes its place, as its own new place and the notifiers allow. -/
theorem Sound.setPlace (sound : Sound state) (client : κ) (place : Place)
    (idle : place.waiting = true → state.lock.clients client = .idle)
    (holds : ∀ left, place = .notifying left → state.lock.clients client = .holding)
    (blocked
      : ∀ waiter,
          place = .blocked waiter
          → waiter < state.waiterCount ∧ (waiter ∈ state.waiters ∨ state.Awake waiter))
    (ownCopy
      : ∀ left,
          place = .notifying left
          → ∀ other,
              other ≠ client
              → (∀ loop, state.places other ≠ .released loop)
                ∧ ∀ waiter,
                    state.places other = .blocked waiter → waiter ∈ left ∨ state.Awake waiter)
    (otherCopy
      : ∀ other left,
          other ≠ client
          → state.places other = .notifying left
          → (∀ loop, place ≠ .released loop)
            ∧ ∀ waiter, place = .blocked waiter → waiter ∈ left ∨ state.Awake waiter)
    : Sound (state.setPlace client place) where
  lock := sound.lock
  idle := by
    intro other waiting
    generalize there : (state.setPlace client place).places other = here at waiting
    rcases places_setPlace_cases there with ⟨rfl, rfl⟩ | ⟨_, rfl⟩
    · exact idle waiting
    · exact sound.idle other waiting
  holds := by
    intro other left here
    rcases places_setPlace_cases here with ⟨rfl, moved⟩ | ⟨_, same⟩
    · exact holds left moved
    · exact sound.holds other left same
  fresh := by
    intro other waiter here
    rcases places_setPlace_cases here with ⟨rfl, moved⟩ | ⟨_, same⟩
    · exact (blocked waiter moved).1
    · exact sound.fresh other waiter same
  registered := by
    intro other waiter here
    rcases places_setPlace_cases here with ⟨rfl, moved⟩ | ⟨_, same⟩
    · exact (blocked waiter moved).2
    · exact sound.registered other waiter same
  copied := by
    intro notifier left here
    rcases places_setPlace_cases here with ⟨rfl, moved⟩ | ⟨different, same⟩
    · constructor
      · intro other loop there
        rcases places_setPlace_cases there with ⟨_, too⟩ | ⟨apart, elsewhere⟩
        · cases moved.symm.trans too
        · exact (ownCopy left moved other apart).1 loop elsewhere
      · intro other waiter there
        rcases places_setPlace_cases there with ⟨_, too⟩ | ⟨apart, elsewhere⟩
        · cases moved.symm.trans too
        · exact (ownCopy left moved other apart).2 waiter elsewhere
    · constructor
      · intro other loop there
        rcases places_setPlace_cases there with ⟨_, moved⟩ | ⟨_, elsewhere⟩
        · exact (otherCopy notifier left different same).1 loop moved
        · exact (sound.copied notifier left same).1 other loop elsewhere
      · intro other waiter there
        rcases places_setPlace_cases there with ⟨_, moved⟩ | ⟨_, elsewhere⟩
        · exact (otherCopy notifier left different same).2 waiter moved
        · exact (sound.copied notifier left same).2 other waiter elsewhere

/-- A client that is not in the methods of the condition any more. -/
theorem Sound.goOutside (sound : Sound state) (client : κ)
    : Sound (state.setPlace client .outside) :=
  sound.setPlace client .outside (by simp [Place.waiting]) (by simp) (by simp) (by simp)
    (by simp)

/-- A client that releases the lock in `wait_sync()` or `wait()` had it, so that nobody
notifies meanwhile.
-/
theorem Sound.release (sound : Sound state) {client : κ} {loop : Option Nat}
    {lock : ThreadsafeLock.State κ} (outside : state.places client = .outside)
    (stepped : ThreadsafeLock.step state.lock (.release client) = some lock)
    : Sound ((state.setLock lock).setPlace client (.released loop)) := by
  have released : state.lock.clients client = .holding ∧ lock.clients client = .idle := by
    cases ThreadsafeLock.move_of_step stepped with
    | releases holding unheld => exact ⟨holding, by simp⟩
  have after : Sound (state.setLock lock) := by
    apply sound.setLock stepped
    intro other same
    exact Option.some.inj same ▸ outside
  apply after.setPlace client (.released loop)
  · exact fun _ => released.2
  · simp
  · simp
  · simp
  · intro other left different notifying
    have same := sound.eq_of_notifying notifying released.1
    exact (different same.symm).elim

/-- A client whose new waiter is put into `_waiters`. -/
theorem Sound.register (sound : Sound state) {client : κ} {loop : Option Nat}
    (here : state.places client = .released loop)
    : Sound (state.register client loop) := by
  have nobody (other : κ) (left : List Nat) : state.places other ≠ .notifying left :=
    fun notifying => (sound.copied other left notifying).1 client loop here
  have kept {waiter : Nat} {other : κ} (blocked : state.places other = .blocked waiter)
      (awake : state.Awake waiter)
      : (state.register client loop).Awake waiter :=
    awake.register (sound.fresh other waiter blocked)
  have grown : Sound { state with
      waiters := state.waiters ++ [state.waiterCount]
      waiterCount := state.waiterCount + 1
      loopOf := Function.update state.loopOf state.waiterCount loop } := {
    lock := sound.lock
    idle := sound.idle
    holds := sound.holds
    fresh := fun other waiter blocked =>
      Nat.lt_succ_of_lt (sound.fresh other waiter blocked)
    registered := fun other waiter blocked =>
      (sound.registered other waiter blocked).imp (List.mem_append_left _) (kept blocked)
    copied := fun other left notifying => (nobody other left notifying).elim
  }
  apply grown.setPlace client (.blocked state.waiterCount)
  · exact fun _ => sound.idle client (by rw [here]; rfl)
  · simp
  · intro waiter same
    cases same
    exact ⟨Nat.lt_succ_self _, .inl (by simp)⟩
  · simp
  · exact fun other left _ notifying => (nobody other left notifying).elim

/-- A pass of the `for` of a notifier, which takes one waiter off its copy. -/
theorem Sound.wakeNext (sound : Sound state) {client : κ} {waiter : Nat} {left : List Nat}
    (here : state.places client = .notifying (waiter :: left))
    : Sound ((state.wake waiter).setPlace client (.notifying left)) := by
  obtain ⟨noWindow, covered⟩ := sound.copied client _ here
  obtain ⟨lock, places, waiters, waiterCount⟩ := wake_frame state waiter
  have woken : Sound (state.wake waiter) :=
    sound.grow lock places waiters waiterCount (fun _ awake => awake.wake)
  apply woken.setPlace client (.notifying left)
  · simp [Place.waiting]
  · intro _ _
    exact lock ▸ sound.holds client _ here
  · simp
  · intro own same other different
    cases same
    rw [places]
    refine ⟨noWindow other, fun own blocked => ?_⟩
    rcases covered other own blocked with inCopy | awake
    · rcases List.mem_cons.mp inCopy with rfl | later
      · exact .inr (awake_wake state own)
      · exact .inl later
    · exact .inr awake.wake
  · simp

/-- The end of a notifier, which empties `_waiters`: who is blocked is awake. -/
theorem Sound.clear (sound : Sound state) {client : κ}
    (here : state.places client = .notifying [])
    : Sound ({ state with waiters := [] }.setPlace client .outside) := by
  have emptied : Sound { state with waiters := [] } := {
    lock := sound.lock
    idle := sound.idle
    holds := sound.holds
    fresh := sound.fresh
    registered := fun other waiter blocked =>
      ((sound.copied client [] here).2 other waiter blocked).imp_left
        (fun member => nomatch member)
    copied := sound.copied
  }
  exact emptied.goOutside client

-----------------------------------------------------------------------------------------
-- Every run
-----------------------------------------------------------------------------------------

/-- When `notify()` copies `_waiters`, no client is between the release of the lock and the
registration of its waiter.
-/
def NoWindow (state : State κ) : Event κ → Prop
  | .notify _ _ => ∀ client, (state.places client).inWindow = false
  | .lock _ | .release _ _ | .register _ | .leave _ | .wakeNext _ | .clear _ | .setResult _
  | .cancel _ => True

instance decidableNoWindow [Fintype κ] (state : State κ)
    : ∀ event, Decidable (NoWindow state event)
  | .notify _ _ => inferInstanceAs (Decidable (∀ client, (state.places client).inWindow = false))
  | .lock _ | .release _ _ | .register _ | .leave _ | .wakeNext _ | .clear _ | .setResult _
  | .cancel _ => isTrue trivial

/-- Every step keeps the invariant as long as no copy is made next to a window, by cases on
the event.
-/
theorem step_sound {event : Event κ} (sound : Sound state) (met : NoWindow state event)
    (stepped : step state event = some next)
    : Sound next := by
  cases move_of_step stepped with
  | locks moved outside => exact sound.setLock moved outside
  | releases outside moved => exact sound.release outside moved
  | registers here => exact sound.register here
  | @leaves client waiter lock here done moved =>
      apply (sound.goOutside client).setLock moved
      intro other taker
      have same : other = client := by
        cases loop : state.loopOf waiter with
        | none => simpa [loop, reacquire, ThreadsafeLock.Event.client?, eq_comm] using taker
        | some own => simpa [loop, reacquire, ThreadsafeLock.Event.client?, eq_comm] using taker
      simp [same]
  | @notifies client copy outside holding copied =>
      apply sound.setPlace client (.notifying copy)
      · simp [Place.waiting]
      · exact fun _ _ => holding
      · simp
      · intro left same other _
        cases same
        refine ⟨?_, ?_⟩
        · intro loop there
          have closed := met other
          simp [there, Place.inWindow] at closed
        · intro waiter blocked
          exact (sound.registered other waiter blocked).imp_left copied.mem_iff.mpr
      · simp
  | wakes here => exact sound.wakeNext here
  | clears here => exact sound.clear here
  | @setsResult waiter scheduled =>
      exact sound.grow rfl rfl rfl rfl (fun _ awake => awake.setResult)
  | cancelsDone here done => exact sound
  | cancels here pending => exact sound.grow rfl rfl rfl rfl (fun _ awake => awake.cancel)

theorem run_sound {events : List (Event κ)} {final : State κ}
    (reached : Transition.run step .initial events = some final)
    (met : Transition.Meets step NoWindow .initial events)
    : Sound final :=
  Transition.run_preserves_of_meets (fun _ _ _ => step_sound) sound_initial met reached

/-- A client is blocked on a waiter that is not in `_waiters`, and that nobody has released,
resolved or cancelled.
-/
def Stranded (state : State κ) : Prop :=
  ∃ client waiter,
    state.places client = .blocked waiter ∧ waiter ∉ state.waiters ∧ ¬state.Awake waiter

/-- The notifier has reached everybody who had released the lock inside `wait_sync()` or `wait()`
when it acquired the lock: nobody of them is still to be put into `_waiters`, and who is
blocked is awake.
-/
def Reached (state : State κ) (notifier : κ) : Prop :=
  ∀ client,
    state.earlier notifier client = true
    → (state.places client).inWindow = false
      ∧ ∀ waiter, state.places client = .blocked waiter → state.Awake waiter

/-- In every run in which no notifier copies `_waiters` while a client is between the release of
the lock and its registration, nobody is stranded, and every `notify()` has reached all
earlier waiters at its end. The proof follows the copy of the notifier: whoever is blocked
is in the rest of it or awake.
-/
theorem condition_notifies {events : List (Event κ)} {final : State κ}
    (reached : Transition.run step .initial events = some final)
    (met : Transition.Meets step NoWindow .initial events)
    : ¬Stranded final
      ∧ ∀ notifier next, step final (.clear notifier) = some next → Reached next notifier := by
  have sound := run_sound reached met
  constructor
  · intro stranded
    obtain ⟨client, waiter, blocked, absent, asleep⟩ := stranded
    rcases sound.registered client waiter blocked with member | awake
    · exact absent member
    · exact asleep awake
  · intro notifier next stepped client _
    cases move_of_step stepped with
    | clears here =>
        obtain ⟨noWindow, covered⟩ := sound.copied notifier [] here
        simp only [State.places_setPlace]
        split
        · exact ⟨rfl, by simp⟩
        · refine ⟨?_, ?_⟩
          · cases there : final.places client with
            | released loop => exact (noWindow client loop there).elim
            | outside => rfl
            | blocked waiter => rfl
            | notifying left => rfl
          · intro waiter blocked
            rcases covered client waiter blocked with member | awake
            · exact nomatch member
            · exact awake

/-- A thread and a task wait, and a thread notifies both. -/
theorem condition_notifies_both
    : ∃ (events : List (Event (Fin 3))) (final next : State (Fin 3)),
        Transition.run step .initial events = some final
        ∧ step final (.clear 2) = some next
        ∧ final.earlier 2 0 = true
        ∧ final.earlier 2 1 = true
        ∧ Reached next 2 := by
  have reached : Transition.run step (.initial : State (Fin 3))
      [.lock (.acquireSync 0), .lock (.enter 0), .release 0 none, .register 0,
        .lock (.acquireAsync 1 7), .lock (.enter 1), .release 1 (some 7), .register 1,
        .lock (.acquireSync 2), .lock (.enter 2), .notify 2 [1, 0], .wakeNext 2, .wakeNext 2]
      = some _ := rfl
  refine ⟨_, _, _, reached, rfl, rfl, rfl, (condition_notifies reached (by decide)).2 2 _ rfl⟩

/-- A thread that has released the lock registers between the copy and the clearing of
`_waiters`: it is stranded, and not reached by the notifier.
-/
theorem condition_strands_waiter
    : ∃ (events : List (Event (Fin 2))) (final : State (Fin 2)),
        Transition.run step .initial (events ++ [.clear 1]) = some final
        ∧ final.earlier 1 0 = true
        ∧ Stranded final
        ∧ ¬Reached final 1 := by
  refine ⟨[.lock (.acquireSync 0), .lock (.enter 0), .release 0 none, .lock (.acquireSync 1),
    .lock (.enter 1), .notify 1 [], .register 0], _, rfl, rfl, ?_, ?_⟩
  · refine ⟨0, 0, rfl, List.not_mem_nil, ?_⟩
    rintro (done | scheduled | ⟨loop, found, _⟩)
    · exact nomatch done
    · exact nomatch scheduled
    · exact nomatch found
  · intro reached
    rcases (reached 0 rfl).2 0 rfl with done | scheduled | ⟨loop, found, _⟩
    · exact nomatch done
    · exact nomatch scheduled
    · exact nomatch found

end Aiodrive.ThreadsafeCondition
