import Aiodrive.ThreadLoop.FinishCalls

/-! A call of `finish()` comes to an end once the target has. -/

namespace Aiodrive.FinishSync

open LaunchSync (isRunning)
open ThreadLoop (Stage ThreadEvent ThreadMove Place)

variable {ε α : Type*} {place : Suppress.Place} {current : Task} {state next final : State ε α}

-----------------------------------------------------------------------------------------
-- What is left to do
-----------------------------------------------------------------------------------------

/-- The steps of the thread past its first change of the stage; the last change of it sends the
caller through its loop once more.
-/
def placeLeft : Place → Nat
  | .starting | .created | .running => 6
  | .absorbed => 5
  | .joined => 1
  | .finished => 0

/-- The steps of a client up to its next wait. -/
def clientLeft : ThreadsafeState.Client Stage → Nat
  | .syncWaiting _ true => 2
  | .checking _ _ => 1
  | .idle | .syncWaiting _ false | .suspended .. | .returned .. | .cancelled => 0

/-- The steps of a caller; `call_soon_threadsafe()` leaves a call to the loop. -/
def Caller.left (client : Nat) : Caller ε α → Nat
  | asking => 5
  | waiting => 2 + client
  | joining => 1
  | launching | ready | exited _ => 0

/-- How often the task can still end. -/
def taskLeft : Option (FutureState (Exception ε) α) → Nat
  | some task => (!task.done).toNat
  | none => 0

def State.stepsLeft (state : State ε α) : Nat :=
  placeLeft state.worker.place + taskLeft state.worker.task
    + state.caller.left (clientLeft (state.worker.stage.clients ())) + state.scheduled
    + (!state.closed).toNat

/-- Everything but another call. -/
def Event.GoesOn : Event ε α → Prop
  | .finish _ => False
  | .thread _ | .runCancel | .closeLoop | .waitUntilSync | .check | .resume | .callSoonThreadsafe
  | .join => True

-----------------------------------------------------------------------------------------
-- Whoever waits will be told
-----------------------------------------------------------------------------------------

/-- In `finish()` nobody waits for a change of the stage that has been. -/
def State.Alert (state : State ε α) : Prop :=
  ∀ fn,
    state.caller = .waiting
    → state.worker.stage.clients () = .syncWaiting fn false
    → state.worker.stage.value ≠ .join

/-- The last change of the stage is told to a caller that waits. -/
theorem alert_threads {worker : ThreadLoop.State (Exception ε) α} {own : Bool}
    {event : ThreadEvent (Exception ε) α} (alert : state.Alert)
    (stepped : ThreadLoop.threadStep state.worker event = some worker)
    : { state with worker, own }.Alert := by
  intro fn waiting client
  rcases ThreadLoop.stage_threadStep stepped with ⟨stage, _⟩ | ⟨value, stage, unjoined, _⟩
  · simp only [stage] at client ⊢
    exact alert fn waiting client
  · simp only [stage, ThreadLoop.clients_setValue, ThreadLoop.value_setValue] at client ⊢
    split at client
    · rename_i same
      rw [← same]
      exact alert fn waiting client
    · cases here : state.worker.stage.clients () <;>
        simp [here, ThreadsafeState.Client.notify] at client

theorem Caller.Waits.refused {caller next : Caller ε α} {fn : Stage → Bool} {value : Stage}
    (waits : caller.Waits fn next) (waiting : caller = .waiting) (refuses : fn value = false)
    : value ≠ .join := by
  cases waits with
  | launches => cases waiting
  | finishes => simpa [isJoin] using refuses

theorem alert_step {event : Event ε α} (alert : state.Alert) (sound : Sound place current state)
    (stepped : step place current state event = some next)
    : next.Alert := by
  intro fn waiting client
  cases move_of_step sound.fits stepped with
  | threads moved => exact alert_threads alert moved fn waiting client
  | runsCancel =>
      simp only [worker_runCancel, caller_runCancel] at waiting client ⊢
      exact alert fn waiting client
  | closes => exact alert fn waiting client
  | launches here => exact alert fn waiting (by simp [here] at waiting)
  | passes | wakes => simp at client
  | holds waits _ refuses => exact waits.refused waiting refuses
  | @calls cancel =>
      rcases finish_cases state cancel with same | same | same
      · simp [same] at waiting
      · simp [same] at waiting
      · simp [same] at client
  | asks => simp at client
  | joins =>
      obtain ⟨outcome, same⟩ := conclude_cases place current state
      simp [same] at waiting

/-- The caller has its function, and the target has ended. -/
structure Ending (place : Suppress.Place) (current : Task) (state : State ε α) : Prop
    extends Sound place current state where
  launched : state.caller ≠ .launching
  ended : state.Released
  alert : state.Alert

theorem Caller.Waits.launched {caller next : Caller ε α} {fn : Stage → Bool}
    (waits : caller.Waits fn next) (launched : caller ≠ .launching)
    : caller = .waiting ∧ fn = isJoin ∧ next = .joining := by
  cases waits with
  | launches => exact absurd rfl launched
  | finishes => exact ⟨rfl, rfl, rfl⟩

theorem Ending.step {event : Event ε α} (ending : Ending place current state)
    (stepped : FinishSync.step place current state event = some next)
    : Ending place current next := by
  have launched := ending.launched
  have ended := ending.ended
  refine ⟨ending.toSound.step stepped, ?_, ?_, alert_step ending.alert ending.toSound stepped⟩
  · cases move_of_step ending.fits stepped with
    | threads | closes | holds | wakes => exact launched
    | runsCancel => simpa using launched
    | launches here => exact absurd here launched
    | passes waits => simp [(waits.launched launched).2.2]
    | @calls cancel => rcases finish_cases state cancel with same | same | same <;> simp [same]
    | asks => simp
    | joins =>
        obtain ⟨outcome, same⟩ := conclude_cases place current state
        simp [same]
  · cases move_of_step ending.fits stepped with
    | threads moved => exact ending.settles.released_kept moved ended
    | closes | holds | wakes | passes => exact ended
    | runsCancel => simpa [State.Released] using ended
    | launches here => exact absurd here launched
    | @calls cancel => rcases finish_cases state cancel with same | same | same <;> exact same ▸ ended
    | asks =>
        unfold State.callSoonThreadsafe
        split <;> exact ended
    | joins =>
        obtain ⟨outcome, same⟩ := conclude_cases place current state
        exact same ▸ ended

theorem clientLeft_notify (client : ThreadsafeState.Client Stage)
    : clientLeft client.notify ≤ clientLeft client + 2 := by
  cases client with
  | syncWaiting fn notified => cases notified <;> simp [ThreadsafeState.Client.notify, clientLeft]
  | idle | checking | suspended | returned | cancelled =>
      simp [ThreadsafeState.Client.notify, clientLeft]

theorem Caller.left_le (caller : Caller ε α) {client next : Nat} (close : next ≤ client + 2)
    : caller.left next ≤ caller.left client + 2 := by
  cases caller <;> simp only [Caller.left] <;> omega

/-- Every step of the thread brings it closer to its end. -/
theorem stepsLeft_thread {worker : ThreadLoop.State (Exception ε) α} {own : Bool}
    {event : ThreadEvent (Exception ε) α} (settles : Settles state.worker)
    (launched : state.worker.stage.value ≠ .preparing)
    (stepped : ThreadLoop.threadStep state.worker event = some worker)
    : { state with worker, own }.stepsLeft < state.stepsLeft := by
  have shows := settles.shows
  cases ThreadLoop.threadMove_of_step stepped with
  | wraps here | hands here | refuses here | setsRunning here =>
      exact absurd (by simpa [here, Place.Shows] using shows) launched
  | @ends ended own done =>
      simp only [State.stepsLeft, own, taskLeft, done, FutureState.done_pending, Bool.not_true,
        Bool.not_false, Bool.toNat_false, Bool.toNat_true]
      omega
  | runs here | raises here =>
      simp only [State.stepsLeft, ThreadLoop.State.absorb, here, placeLeft]
      omega
  | setsJoin here =>
      have told : clientLeft ((state.worker.setStage .join .joined).stage.clients ())
          ≤ clientLeft (state.worker.stage.clients ()) + 2 := by
        simp only [ThreadLoop.State.setStage, ThreadLoop.clients_setValue]
        split
        · exact Nat.le_add_right _ _
        · exact clientLeft_notify _
      have caller := state.caller.left_le told
      simp only [State.stepsLeft, ThreadLoop.State.setStage, here, placeLeft] at caller ⊢
      omega
  | finishes here =>
      simp only [State.stepsLeft, here, placeLeft]
      omega

/-- Every step but another call brings the call closer to its end. -/
theorem Ending.stepsLeft_lt {event : Event ε α} (ending : Ending place current state)
    (goesOn : event.GoesOn) (stepped : FinishSync.step place current state event = some next)
    : next.stepsLeft < state.stepsLeft := by
  have launched := ending.launched
  have value := (ending.knows.launched ending.settles launched).2
  cases move_of_step ending.fits stepped with
  | threads moved => exact stepsLeft_thread ending.settles value moved
  | runsCancel inFlight =>
      have fewer : state.runCancel.scheduled + 1 = state.scheduled := by
        unfold State.runCancel
        split <;> exact Nat.sub_add_cancel inFlight
      have closed : state.runCancel.closed = state.closed := by
        unfold State.runCancel
        split <;> rfl
      simp only [State.stepsLeft, worker_runCancel, caller_runCancel, closed]
      omega
  | closes _ opened =>
      simp only [State.stepsLeft, opened, Bool.not_true, Bool.not_false, Bool.toNat_false,
        Bool.toNat_true]
      omega
  | launches here => exact absurd here launched
  | passes waits client =>
      obtain ⟨waiting, rfl, rfl⟩ := waits.launched launched
      simp only [State.stepsLeft, waiting, client, Caller.left, clientLeft]
      simp only [State.setClient]
      omega
  | holds waits client =>
      obtain ⟨waiting, rfl, rfl⟩ := waits.launched launched
      simp only [State.stepsLeft, clients_setClient, client, clientLeft]
      simp only [State.setClient, waiting, Caller.left]
      omega
  | wakes waits client =>
      obtain ⟨waiting, rfl, rfl⟩ := waits.launched launched
      simp only [State.stepsLeft, clients_setClient, client, clientLeft]
      simp only [State.setClient, waiting, Caller.left]
      omega
  | calls => exact goesOn.elim
  | asks here =>
      simp only [State.stepsLeft, caller_waitForJoin, clients_waitForJoin, here, Caller.left,
        clientLeft]
      unfold State.callSoonThreadsafe
      split <;> simp only [State.waitForJoin] <;> omega
  | joins here =>
      obtain ⟨outcome, same⟩ := conclude_cases place current state
      simp only [State.stepsLeft, same, here, Caller.left]
      omega

-----------------------------------------------------------------------------------------
-- A step that is always left
-----------------------------------------------------------------------------------------

/-- The thread of a target that has ended goes on to its end. -/
theorem thread_goesOn (released : state.Released) (settles : Settles state.worker)
    (launched : state.worker.stage.value ≠ .preparing) (unended : state.worker.place ≠ .finished)
    : ∃ event : Event ε α, event.GoesOn ∧ (step place current state event).isSome = true := by
  have shows := settles.shows
  obtain ⟨task, has, past⟩ := released
  cases here : state.worker.place with
  | starting | created => exact absurd (by simpa [here, Place.Shows] using shows) launched
  | running =>
      cases attached : state.worker.attached with
      | false =>
          refine ⟨.thread (.runRaises (.single .cancelledError)), trivial, ?_⟩
          simp [step, State.threadStep, ThreadLoop.threadStep, here, attached]
      | true =>
          have done : task.done = true := by simpa [attached] using past
          cases closed : state.closed with
          | false =>
              have released : state.Released := ⟨task, has, past⟩
              refine ⟨.closeLoop, trivial, ?_⟩
              simp [step, released, closed]
          | true =>
              refine ⟨.thread .runReturns, trivial, ?_⟩
              simp [step, State.threadStep, ThreadLoop.threadStep, here, attached, has, done, closed]
  | absorbed =>
      refine ⟨.thread .setJoin, trivial, ?_⟩
      simp [step, State.threadStep, ThreadLoop.threadStep, here]
  | joined =>
      refine ⟨.thread .returns, trivial, ?_⟩
      simp [step, State.threadStep, ThreadLoop.threadStep, here]
  | finished => exact absurd here unended

theorem Ending.goesOn (ending : Ending place current state)
    : state.caller.Idle
      ∨ ∃ event : Event ε α, event.GoesOn ∧ (FinishSync.step place current state event).isSome := by
  have fits := ending.fits
  have knows := ending.knows
  have value := (knows.launched ending.settles ending.launched).2
  have threads (unended : state.worker.place ≠ .finished) :=
    @thread_goesOn _ _ place current _ ending.ended ending.settles value unended
  cases here : state.caller with
  | launching => exact absurd here ending.launched
  | ready | exited _ => exact .inl trivial
  | asking => exact .inr ⟨.callSoonThreadsafe, trivial, by simp [FinishSync.step, here]⟩
  | joining =>
      by_cases ended : state.worker.place = .finished
      · exact .inr ⟨.join, trivial, by simp [FinishSync.step, here, ended]⟩
      · exact .inr (threads ended)
  | waiting =>
      rw [here] at fits
      cases client : state.worker.stage.clients () with
      | idle | suspended | returned | cancelled =>
          rw [client] at fits
          exact fits.elim
      | checking fn loop =>
          rw [client] at fits
          obtain ⟨rfl, rfl⟩ := fits
          refine .inr ⟨.check, trivial, ?_⟩
          simp [FinishSync.step, here, State.awaitStage, ThreadLoop.State.onStage,
            ThreadsafeState.step, client]
      | syncWaiting fn notified =>
          cases notified with
          | true =>
              refine .inr ⟨.resume, trivial, ?_⟩
              simp [FinishSync.step, here, State.awaitStage, ThreadLoop.State.onStage,
                ThreadsafeState.step, client]
          | false =>
              refine .inr (threads fun ended => ?_)
              exact ending.alert fn here client (ending.settles.joined_of_finished ended)

end Aiodrive.FinishSync
