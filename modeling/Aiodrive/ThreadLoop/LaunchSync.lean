import Aiodrive.ThreadLoop.Model

/-! `launch_in_thread_loop_sync()` of `modules/thread_sync.py`: it waits for the value "running" of
`stage`, which the thread replaces by "join", and never returns if it does not look in between.
-/

namespace Aiodrive.LaunchSync

open ThreadLoop

variable {ε α : Type*}

/-- The predicate of `launch_in_thread_loop_sync()`. -/
def isRunning (value : Stage) : Bool := value = .running

/-- The thread goes on; or the launching thread calls `stage.wait_until_sync()`, evaluates its
predicate there, or wakes up.
-/
inductive Event (ε α : Type*) where
  | thread (event : ThreadEvent ε α)
  | waitUntilSync
  | check
  | resume
deriving DecidableEq, Repr

def step (state : State ε α) : Event ε α → Option (State ε α)
  | .thread event => threadStep state event
  | .waitUntilSync =>
      match state.stage.clients () with
      | .idle => state.onStage (.waitUntilSync () isRunning)
      | .checking .. | .suspended .. | .syncWaiting .. | .returned .. | .cancelled => none
  | .check => state.onStage (.check ())
  | .resume => state.onStage (.resume ())

variable {state next final : State ε α} {events : List (Event ε α)}

/-- The thread has changed the stage for the last time, and the launching thread waits for another
change with its predicate false.
-/
def Stuck (state : State ε α) : Prop :=
  state.place.Joined
  ∧ ∃ fn, state.stage.clients () = .syncWaiting fn false ∧ fn state.stage.value = false

/-- The predicate is not evaluated on the last value of the stage. -/
def ChecksInTime (state : State ε α) : Event ε α → Prop
  | .check => state.stage.value ≠ .join
  | .thread _ | .waitUntilSync | .resume => True

instance : ∀ event, Decidable (ChecksInTime state event)
  | .check => inferInstanceAs (Decidable (state.stage.value ≠ .join))
  | .thread _ | .waitUntilSync | .resume => .isTrue trivial

/-- Where the launching thread can be. -/
def Launching : ThreadsafeState.Client Stage → Prop
  | .idle | .returned .. => True
  | .checking fn loop => fn = isRunning ∧ loop = none
  | .syncWaiting fn _ => fn = isRunning
  | .suspended .. | .cancelled => False

structure Sound (state : State ε α) : Prop where
  shows : state.place.Shows state.stage.value
  launching : Launching (state.stage.clients ())

theorem sound_initial : Sound (.initial : State ε α) := ⟨rfl, trivial⟩

/-- The steps: of the thread, or of the launching thread where it is. -/
inductive Move (state : State ε α) : Event ε α → State ε α → Prop where
  | threads {event : ThreadEvent ε α} {next : State ε α}
    (stepped : threadStep state event = some next)
    : Move state (.thread event) next
  | calls (here : state.stage.clients () = .idle)
    : Move state .waitUntilSync
        { state with stage := state.stage.begin () (.checking isRunning none) }
  | checks (here : state.stage.clients () = .checking isRunning none)
    : Move state .check { state with stage := state.stage.check () isRunning none }
  | wakes (here : state.stage.clients () = .syncWaiting isRunning true)
    : Move state .resume { state with stage := state.stage.setClient () (.checking isRunning none) }

theorem Sound.move_of_step (sound : Sound state) {event : Event ε α}
    (stepped : step state event = some next)
    : Move state event next := by
  have launching := sound.launching
  cases event with
  | thread event => exact .threads stepped
  | waitUntilSync =>
      simp only [step] at stepped
      split at stepped
      case h_1 here =>
          obtain ⟨stage, moved, rfl⟩ := Option.map_eq_some_iff.mp stepped
          cases ThreadsafeState.move_of_step moved with
          | beginsSync => exact .calls here
      all_goals contradiction
  | check =>
      obtain ⟨stage, moved, rfl⟩ := Option.map_eq_some_iff.mp stepped
      cases ThreadsafeState.move_of_step moved with
      | checks here =>
          rw [here] at launching
          obtain ⟨rfl, rfl⟩ := launching
          exact .checks here
  | resume =>
      obtain ⟨stage, moved, rfl⟩ := Option.map_eq_some_iff.mp stepped
      cases ThreadsafeState.move_of_step moved with
      | resumesSync here =>
          rw [here] at launching
          obtain rfl : _ = isRunning := launching
          exact .wakes here
      | throws here | resumes here =>
          rw [here] at launching
          exact launching.elim

theorem Launching.notify {client : ThreadsafeState.Client Stage} (launching : Launching client)
    : Launching client.notify := by
  cases client <;> exact launching

theorem Launching.threadStep {event : ThreadEvent ε α}
    (launching : Launching (state.stage.clients ()))
    (stepped : ThreadLoop.threadStep state event = some next)
    : Launching (next.stage.clients ()) := by
  rcases stage_threadStep stepped with ⟨stage, _⟩ | ⟨value, stage, _⟩
  · exact stage ▸ launching
  · rw [stage, clients_setValue]
    split
    · exact launching
    · exact launching.notify

theorem Sound.step (sound : Sound state) {event : Event ε α}
    (stepped : LaunchSync.step state event = some next)
    : Sound next := by
  cases sound.move_of_step stepped with
  | threads moved => exact ⟨shows_threadStep sound.shows moved, sound.launching.threadStep moved⟩
  | calls here => exact ⟨sound.shows, ⟨rfl, rfl⟩⟩
  | checks here =>
      refine ⟨?_, ?_⟩
      · simpa using sound.shows
      · cases accepts : isRunning state.stage.value with
        | true => simp [ThreadsafeState.clients_check_of_accepts, accepts, Launching]
        | false => simp [ThreadsafeState.clients_check_sync, accepts, Launching]
  | wakes here => exact ⟨sound.shows, by simp [ThreadsafeState.State.setClient, Launching]⟩

/-- A step of the thread leaves the launching thread stuck or not. -/
theorem Sound.stuck_of_thread (sound : Sound state) {event : ThreadEvent ε α}
    (stepped : threadStep state event = some next)
    : Stuck next ↔ Stuck state := by
  rcases stage_threadStep stepped with ⟨stage, joined⟩ | ⟨value, stage, unjoined, last⟩
  · rw [Stuck, Stuck, joined, stage]
  · refine iff_of_false ?_ (fun stuck => unjoined stuck.1)
    rintro ⟨joined, fn, waits, _⟩
    have changes : state.stage.value ≠ value :=
      fun same => unjoined (sound.shows.joined_iff.mpr (same.trans (last joined)))
    rw [stage, clients_setValue, if_neg changes] at waits
    cases client : state.stage.clients () <;>
      simp [client, ThreadsafeState.Client.notify] at waits

/-- The launching thread gets stuck by exactly an evaluation of its predicate that is too late. -/
theorem Sound.stuck_step_iff (sound : Sound state) {event : Event ε α}
    (stepped : LaunchSync.step state event = some next)
    : Stuck next ↔ Stuck state ∨ ¬ChecksInTime state event := by
  cases sound.move_of_step stepped with
  | threads moved => simp [sound.stuck_of_thread moved, ChecksInTime]
  | calls here => simp [Stuck, here, ChecksInTime, ThreadsafeState.State.begin,
      ThreadsafeState.State.setClient]
  | checks here =>
      have joined := sound.shows.joined_iff
      cases accepts : isRunning state.stage.value with
      | true =>
          have running : state.stage.value = .running := by simpa [isRunning] using accepts
          have returned := ThreadsafeState.clients_check_of_accepts state.stage () none accepts
          simp [Stuck, here, ChecksInTime, returned, running]
      | false =>
          simp [Stuck, here, ChecksInTime, ThreadsafeState.clients_check_sync, accepts, joined]
  | wakes here => simp [Stuck, here, ChecksInTime, ThreadsafeState.State.setClient]

/-- The launching thread is stuck in no state of a run exactly if it never evaluates its predicate
after the thread has set the stage to "join". The proof follows the value of the stage.
-/
theorem launch_returns_iff (reached : Transition.run step .initial events = some final)
    : ¬Stuck final ↔ Transition.Meets step ChecksInTime .initial events := by
  have stuck :=
    Transition.bad_iff_not_meets_of_good ChecksInTime
      (fun _ _ _ _ sound stepped => Sound.step sound stepped)
      (fun _ _ _ _ sound stepped => Sound.stuck_step_iff sound stepped)
      sound_initial (fun stuck => stuck.1) reached
  exact not_iff_comm.mp stuck.symm

/-- The launching thread looks at the stage before the target ends. -/
theorem launch_returns_inTime
    : ∃ events, ∃ final : State String Unit,
        Transition.run step .initial events = some final
        ∧ final.stage.clients () = .returned isRunning .running
        ∧ final.place = .joined
        ∧ ¬Stuck final := by
  have reached
      : Transition.run step (.initial : State String Unit)
          [.waitUntilSync, .check, .thread .ensureFuture, .thread .setRunning, .resume, .check,
            .thread (.taskEnds (.success ())), .thread .runReturns, .thread .setJoin]
        = some _ :=
    rfl
  exact ⟨_, _, reached, rfl, rfl, (launch_returns_iff reached).mpr (by decide)⟩

/-- The target ends before the launching thread looks at the stage, or cannot be wrapped: either
way it finds the value "join" and waits for ever.
-/
theorem launch_stuck_after_join
    : ∃ ended unwrapped : State String Unit,
        Transition.run step .initial
            [.waitUntilSync, .check, .thread .ensureFuture, .thread (.taskEnds (.success ())),
              .thread .setRunning, .thread .runReturns, .thread .setJoin, .resume, .check,
              .thread .returns]
          = some ended
        ∧ Stuck ended
        ∧ Transition.run step .initial
            [.thread (.ensureFutureRaises "TypeError"), .thread .setJoin, .waitUntilSync, .check,
              .thread .returns]
          = some unwrapped
        ∧ Stuck unwrapped :=
  ⟨_, _, rfl, ⟨trivial, isRunning, rfl, rfl⟩, rfl, ⟨trivial, isRunning, rfl, rfl⟩⟩

end Aiodrive.LaunchSync
