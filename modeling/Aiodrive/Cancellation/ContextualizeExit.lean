import Aiodrive.Cancellation.Contextualize

/-! What `contextualize()` makes of its background task and of its body at the exit. The
invariant follows both through the scope and `cancel_task()`. The one failure of the background
task that is not raised is a `StopAsyncIteration`, which an async generator cannot raise.
-/

namespace Aiodrive.Contextualize

open UseScope (Ending Exit Scope)

variable {ε : Type*} {stops : ε → Bool} {state next : State ε}

-----------------------------------------------------------------------------------------
-- What each piece makes of an exception
-----------------------------------------------------------------------------------------

@[simp] theorem carries_returned (error : ε) : ¬(.returned : ContextExit ε).Carries error := id

@[simp] theorem carries_raised_iff (raised : Raised ε) (error : ε)
    : (ContextExit.raised raised).Carries error ↔ raised = .exception error :=
  Iff.rfl

@[simp] theorem carries_pair_iff (first second : Raised ε) (error : ε)
    : (ContextExit.group [first, second]).Carries error
      ↔ first = .exception error ∨ second = .exception error := by
  simp only [ContextExit.Carries, List.mem_cons, List.not_mem_nil, or_false]
  exact or_congr eq_comm eq_comm

/-- An exception leaves the generator as it is, unless it is a `StopAsyncIteration`. -/
@[simp] theorem leaveGenerator_carries_iff (raised : Raised ε) (error : ε)
    : (leaveGenerator stops raised).Carries error
      ↔ raised = .exception error ∧ stops error = false := by
  cases raised with
  | exception own =>
      cases stop : stops own with
      | true =>
          simp only [leaveGenerator, stop, if_true, ContextExit.Carries, false_iff]
          rintro ⟨same, unstopped⟩
          cases same
          simp [stop] at unstopped
      | false =>
          simp only [leaveGenerator, stop, Bool.false_eq_true, if_false, carries_raised_iff]
          refine (and_iff_left_of_imp ?_).symm
          rintro same
          cases same
          exact stop
  | group exceptions => simp [leaveGenerator]
  | cancelledError => simp [leaveGenerator]
  | assertionError => simp [leaveGenerator]
  | invalidStateError => simp [leaveGenerator]

/-- The branches of `contextualize()` add no exception, keep that of the body, and keep the one
that `cancel_task()` raises unless it leaves the generator by itself and is a
`StopAsyncIteration`.
-/
theorem conclude_carries_iff (exit : Exit ε) (outcome : Outcome ε Unit) (error : ε)
    : (conclude stops exit outcome).Carries error
      ↔ exit = .raised error
        ∨ outcome = .raised (.exception error)
          ∧ (stops error = false ∨ ∃ own, exit = .raised own) := by
  cases exit <;> cases outcome <;> simp [conclude]

/-- Leaving the scope lets an exception of the body pass. -/
theorem exit_eq_raised_iff (scope : Scope) (task : Task) (ending : Ending ε) (error : ε)
    : (UseScope.exit scope task ending).2.2 = .raised error ↔ ending = .raised error := by
  cases ending with
  | returned => simp [UseScope.exit]
  | raised own => simp [UseScope.exit]
  | cancelledError =>
      simp only [UseScope.exit, reduceCtorEq, iff_false]
      split <;> simp

/-- `cancel_task()` raises the exception of the background task, unless a `CancelledError` is
thrown at its `await`.
-/
theorem resume_eq_exception_iff {background : FutureState ε Unit}
    {guaranteed : GuaranteedTask} {thrown : Bool} (error : ε)
    : (CancelTask.resume background guaranteed thrown).2 = .raised (.exception error)
      ↔ thrown = false ∧ background = .exception error := by
  cases thrown with
  | true =>
      rw [CancelTask.resume_cancelled (.inl rfl)]
      split <;> simp
  | false =>
      cases background with
      | cancelled =>
          rw [CancelTask.resume_cancelled (.inr rfl)]
          split <;> simp
      | exception own => simp [CancelTask.resume, CancelTask.awaitTask, FutureState.result]
      | pending => simp [CancelTask.resume, CancelTask.awaitTask, FutureState.result]
      | success value => simp [CancelTask.resume, CancelTask.awaitTask, FutureState.result]

/-- `cancel_task()` does not reach the base class of a task that has not been started. -/
theorem resume_guaranteed (background : FutureState ε Unit) {guaranteed : GuaranteedTask}
    (untouched : guaranteed.Untouched) (thrown : Bool)
    : (CancelTask.resume background guaranteed thrown).1.Untouched
      ∧ (CancelTask.resume background guaranteed thrown).1.ready = guaranteed.ready := by
  unfold CancelTask.resume
  split
  · exact ⟨untouched.uncancel, guaranteed.uncancel_ready⟩
  · exact ⟨untouched, rfl⟩

/-- The callback changes neither the background task nor the place of the context. -/
theorem runCallback_frame (state : State ε)
    : state.runCallback.background = state.background
      ∧ state.runCallback.guaranteed = state.guaranteed
      ∧ state.runCallback.started = state.started
      ∧ state.runCallback.place = state.place := by
  unfold State.runCallback
  simp only
  split
  · split <;> exact ⟨rfl, rfl, rfl, rfl⟩
  · exact ⟨rfl, rfl, rfl, rfl⟩

-----------------------------------------------------------------------------------------
-- The background task and the exception of the body
-----------------------------------------------------------------------------------------

/-- What holds of every context: the background task starts in its first step and cannot end
before; a `CancelledError` is thrown at the `await` only past one of the task; and the context
exits with the task done, by a branch that was given the exceptions of its body and of the task.
-/
structure Sound (stops : ε → Bool) (state : State ε) : Prop where
  untouched : state.guaranteed.Untouched
  unstarted : state.guaranteed.ready = false → state.started = 0
  startedOnce : state.guaranteed.ready = true → state.started = 1
  doneAfterStart : state.background.done = true → state.guaranteed.ready = true
  body
    : ∀ ending exit thrown,
        state.place = .awaiting ending exit thrown
        → ∀ error, exit = .raised error ↔ ending = .raised error
  thrownAfterCancelled
    : ∀ ending exit, state.place = .awaiting ending exit true → state.background = .cancelled
  exited
    : ∀ ending outcome,
        state.place = .exited ending outcome
        → state.background.done = true
          ∧ ∃ exit result,
              outcome = conclude stops exit result
              ∧ (∀ error, exit = .raised error ↔ ending = .raised error)
              ∧ ∀ error,
                  result = .raised (.exception error) ↔ state.background = .exception error

theorem initial_sound (current : Task) : Sound stops (State.initial current : State ε) where
  untouched := GuaranteedTask.new_untouched
  unstarted := fun _ => rfl
  startedOnce := fun ready => nomatch ready
  doneAfterStart := fun done => nomatch done
  body := by simp [State.initial]
  thrownAfterCancelled := by simp [State.initial]
  exited := by simp [State.initial]

/-- A started background task that ends keeps the context sound. -/
theorem Sound.endBackground {ended : FutureState ε Unit} (sound : Sound stops state)
    (pending : state.background.done = false) (ready : state.guaranteed.ready = true)
    : Sound stops (state.endBackground ended) where
  untouched := sound.untouched
  unstarted := sound.unstarted
  startedOnce := sound.startedOnce
  doneAfterStart := fun _ => ready
  body := sound.body
  thrownAfterCancelled := by
    intro ending exit here
    have cancelled := sound.thrownAfterCancelled ending exit here
    simp [cancelled] at pending
  exited := by
    intro ending outcome here
    have done := (sound.exited ending outcome here).1
    simp [done] at pending

/-- The end of the body keeps the context sound. -/
theorem Sound.leaveBody (sound : Sound stops state) (ending : Ending ε)
    : Sound stops (state.leaveBody stops ending) := by
  have passes := exit_eq_raised_iff state.scope state.current ending
  unfold State.leaveBody
  simp only
  split
  · rename_i done
    refine ⟨sound.untouched, sound.unstarted, sound.startedOnce, sound.doneAfterStart,
      by simp, by simp, ?_⟩
    intro own outcome here
    cases here
    refine ⟨done, _, _, rfl, passes, fun error => ?_⟩
    cases state.background <;> simp [CancelTask.awaitTask, FutureState.result]
  · refine ⟨sound.untouched.cancel _, ?_, ?_, ?_, ?_, by simp, by simp⟩
    · simpa using sound.unstarted
    · simpa using sound.startedOnce
    · simpa using sound.doneAfterStart
    · intro own exit thrown here
      cases here
      exact passes

/-- A cancellation at the `await` of `cancel_task()` keeps the context sound: a `GuaranteedTask`
that does not take it over was cancelled.
-/
theorem Sound.cancelAwaiting {ending : Ending ε} {exit : Exit ε} {thrown : Bool}
    (sound : Sound stops state) (here : state.place = .awaiting ending exit thrown)
    : Sound stops (state.cancelAwaiting ending exit) := by
  unfold State.cancelAwaiting
  simp only
  split
  · refine ⟨sound.untouched.cancel _, ?_, ?_, ?_, sound.body, sound.thrownAfterCancelled,
      sound.exited⟩
    · simpa using sound.unstarted
    · simpa using sound.startedOnce
    · simpa using sound.doneAfterStart
  · rename_i refused
    refine ⟨sound.untouched, sound.unstarted, sound.startedOnce, sound.doneAfterStart, ?_, ?_,
      by simp⟩
    · intro own branch late same
      cases same
      exact sound.body ending exit thrown here
    · intro own branch same
      show state.background = .cancelled
      rw [Bool.not_eq_true, GuaranteedTask.cancel_eq_false_iff] at refused
      exact refused

/-- The end of `cancel_task()` keeps the context sound. -/
theorem Sound.conclude {ending : Ending ε} {exit : Exit ε} {thrown : Bool}
    (sound : Sound stops state) (here : state.place = .awaiting ending exit thrown)
    (done : state.background.done = true)
    : Sound stops { state with
        guaranteed := (CancelTask.resume state.background state.guaranteed thrown).1
        place := .exited ending
          (conclude stops exit
            (CancelTask.resume state.background state.guaranteed thrown).2) } := by
  obtain ⟨untouched, ready⟩ := resume_guaranteed state.background sound.untouched thrown
  refine ⟨untouched, fun unready => sound.unstarted (ready ▸ unready),
    fun isReady => sound.startedOnce (ready ▸ isReady),
    fun done => ready.trans (sound.doneAfterStart done), by simp, by simp, ?_⟩
  intro own outcome same
  cases same
  refine ⟨done, exit, _, rfl, sound.body ending exit thrown here, fun error => ?_⟩
  rw [resume_eq_exception_iff]
  refine and_iff_right_of_imp (fun failed => ?_)
  -- Past a background task that failed, nothing was thrown at the `await`
  cases thrown with
  | false => rfl
  | true => simp [sound.thrownAfterCancelled ending exit here] at failed

/-- One step keeps the context sound, by cases on the event. -/
theorem step_sound {event : Event ε} (sound : Sound stops state)
    (stepped : step stops state event = some next)
    : Sound stops next := by
  cases move_of_step stepped with
  | @starts guaranteed notDone unready first =>
      obtain ⟨_, same, ready⟩ := sound.untouched.firstStep unready
      obtain rfl := Option.some.inj (first.symm.trans same)
      refine ⟨?_, ?_, ?_, fun _ => ready, sound.body, sound.thrownAfterCancelled, sound.exited⟩
      · intro unready
        simp [ready] at unready
      · intro unready
        simp [ready] at unready
      · intro _
        simp only [sound.unstarted unready]
  | skips notDone unready first =>
      obtain ⟨_, same, _⟩ := sound.untouched.firstStep unready
      simp [first] at same
  | ends notDone ready done => exact sound.endBackground notDone ready
  | runsCallback scheduled =>
      obtain ⟨background, guaranteed, started, place⟩ := runCallback_frame state
      obtain ⟨untouched, unstarted, startedOnce, doneAfterStart, body, thrown, exited⟩ := sound
      constructor
      · simpa only [guaranteed] using untouched
      · simpa only [guaranteed, started] using unstarted
      · simpa only [guaranteed, started] using startedOnce
      · simpa only [background, guaranteed] using doneAfterStart
      · simpa only [place] using body
      · simpa only [background, place] using thrown
      · simpa only [background, place] using exited
  | cancelsBody here =>
      -- The count of the current task is none of the fields that the invariant reads
      exact { sound with }
  | @cancelsAwaiting message ending exit thrown here =>
      have cancelled : Sound stops (state.countCancel message) := { sound with }
      exact cancelled.cancelAwaiting here
  | leavesBody here => exact sound.leaveBody _
  | concludes here done => exact sound.conclude here done

/-- Every reachable context is sound, by induction on the events. -/
theorem run_sound {current : Task} {events : List (Event ε)} {final : State ε}
    (reached : Transition.run (step stops) (State.initial current) events = some final)
    : Sound stops final :=
  Transition.run_preserves (fun _ _ _ sound stepped => step_sound sound stepped)
    (initial_sound current) reached

-----------------------------------------------------------------------------------------
-- The exit of the context
-----------------------------------------------------------------------------------------

/-- The context has exited without abandoning or silencing its background task: the awaitable
was started exactly once and its task is done, and the exceptions of both the task and the
body are the one raised or in the raised group.
-/
structure Accounted (state : State ε) (ending : Ending ε) (outcome : ContextExit ε) : Prop where
  startedOnce : state.started = 1
  done : state.background.done = true
  background : ∀ error, state.background = .exception error → outcome.Carries error
  body : ∀ error, ending = .raised error → outcome.Carries error

/-- A context that has exited accounts for its background task and its body exactly unless the
former raised `StopAsyncIteration` and the latter raised nothing to form a group with.
-/
theorem contextualize_accounted_iff {current : Task} {events : List (Event ε)}
    {final : State ε} {ending : Ending ε} {outcome : ContextExit ε}
    (reached : Transition.run (step stops) (State.initial current) events = some final)
    (exited : final.place = .exited ending outcome)
    : Accounted final ending outcome
      ↔ ∀ error,
          final.background = .exception error
          → stops error = true
          → ∃ own, ending = .raised own := by
  have sound : Sound stops final := run_sound reached
  obtain ⟨done, exit, result, rfl, body, failed⟩ := sound.exited ending outcome exited
  constructor
  · intro accounted error ended stop
    rcases (conclude_carries_iff exit result error).mp (accounted.background error ended) with
      raised | ⟨_, unstopped | ⟨own, raised⟩⟩
    · exact ⟨error, (body error).mp raised⟩
    · simp [stop] at unstopped
    · exact ⟨own, (body own).mp raised⟩
  · intro spared
    refine ⟨sound.startedOnce (sound.doneAfterStart done), done, ?_, ?_⟩
    · intro error ended
      refine (conclude_carries_iff exit result error).mpr (.inr ⟨(failed error).mpr ended, ?_⟩)
      cases stop : stops error with
      | false => exact .inl rfl
      | true =>
          obtain ⟨own, raised⟩ := spared error ended stop
          exact .inr ⟨own, (body own).mpr raised⟩
    · intro error raised
      exact (conclude_carries_iff exit result error).mpr (.inl ((body error).mpr raised))

/-- The background task fails and cancels the body through the scope, and a cancellation comes
while the context awaits it.
-/
theorem contextualize_accounted_failure
    : ∃ (events : List (Event String)) (final : State String),
        Transition.run (step (· == "StopAsyncIteration"))
            (State.initial { cancelling := 0, message := none }) events = some final
        ∧ Accounted final .returned (.raised (.exception "ValueError")) := by
  have reached : Transition.run (step (· == "StopAsyncIteration"))
      (State.initial { cancelling := 0, message := none } : State String)
      [.firstStep, .bodyEnds .returned, .backgroundEnds (.exception "ValueError"),
        .cancelCurrent none, .resumes]
      = some _ := rfl
  refine ⟨_, _, reached, (contextualize_accounted_iff reached rfl).mpr ?_⟩
  intro error failed stop
  obtain rfl : "ValueError" = error := FutureState.exception.inj failed
  simp at stop

/-- The background awaitable ends with a `StopAsyncIteration`, which cancels the body: the context
raises a `RuntimeError` in its place.
-/
theorem contextualize_wraps_stop
    : ∃ (events : List (Event String)) (final : State String),
        Transition.run (step (· == "StopAsyncIteration"))
            (State.initial { cancelling := 0, message := none }) events = some final
        ∧ final.place = .exited .cancelledError (.runtimeError "StopAsyncIteration")
        ∧ final.background = .exception "StopAsyncIteration"
        ∧ ¬Accounted final .cancelledError (.runtimeError "StopAsyncIteration") := by
  refine ⟨[.firstStep, .backgroundEnds (.exception "StopAsyncIteration"), .callbackRuns,
    .bodyEnds .cancelledError], _, rfl, rfl, rfl, ?_⟩
  intro accounted
  exact accounted.background "StopAsyncIteration" rfl

end Aiodrive.Contextualize
