import Aiodrive.ThreadLoop.Finish

/-! What a call of `finish()` returns, and how often it asks the target to cancel. -/

namespace Aiodrive.FinishSync

open ExceptionGroups (Thrown)
open LaunchSync (isRunning)
open ThreadLoop (Stage ThreadEvent ThreadMove Place)

variable {ε α : Type*} {place : Suppress.Place} {current : Task} {state next final : State ε α}

-----------------------------------------------------------------------------------------
-- The steps
-----------------------------------------------------------------------------------------

/-- Where the launching thread can be in the `stage.wait_until_sync()` of the function it is in. -/
def Caller.Fits : Caller ε α → ThreadsafeState.Client Stage → Prop
  | launching, .idle => True
  | launching, .checking fn loop => fn = isRunning ∧ loop = none
  | launching, .syncWaiting fn _ => fn = isRunning
  | waiting, .checking fn loop => fn = isJoin ∧ loop = none
  | waiting, .syncWaiting fn _ => fn = isJoin
  | launching, _ | waiting, _ => False
  | ready, _ | asking, _ | joining, _ | exited _, _ => True

/-- The predicate that a caller waits for, and where it goes on then. -/
inductive Caller.Waits : Caller ε α → (Stage → Bool) → Caller ε α → Prop where
  | launches : Waits launching isRunning ready
  | finishes : Waits waiting isJoin joining

/-- The stage with its client elsewhere. -/
def State.setClient (state : State ε α) (client : ThreadsafeState.Client Stage) : State ε α :=
  { state with
    worker := { state.worker with stage := state.worker.stage.setClient () client } }

@[simp] theorem clients_setClient (state : State ε α) (client : ThreadsafeState.Client Stage)
    : (state.setClient client).worker.stage.clients () = client := by
  simp [State.setClient, ThreadsafeState.State.setClient]

/-- The steps, one constructor for each branch. -/
inductive Move (place : Suppress.Place) (current : Task) (state : State ε α)
    : Event ε α → State ε α → Prop where
  | threads {event : ThreadEvent (Exception ε) α} {worker : ThreadLoop.State (Exception ε) α}
    {own : Bool} (stepped : ThreadLoop.threadStep state.worker event = some worker)
    (attached : own = state.own ∨ worker.attached = true)
    : Move place current state (.thread event) { state with worker, own }
  | runsCancel (inFlight : 0 < state.scheduled) : Move place current state .runCancel state.runCancel
  | closes (released : state.Released) (opened : state.closed = false)
    : Move place current state .closeLoop { state with closed := true }
  | launches (here : state.caller = .launching) (client : state.worker.stage.clients () = .idle)
    : Move place current state .waitUntilSync
        { state with worker := { state.worker with
            stage := state.worker.stage.begin () (.checking isRunning none) } }
  | passes {fn : Stage → Bool} {caller : Caller ε α} (waits : state.caller.Waits fn caller)
    (client : state.worker.stage.clients () = .checking fn none)
    (accepts : fn state.worker.stage.value = true)
    : Move place current state .check
        { state.setClient (.returned fn state.worker.stage.value) with caller }
  | holds {fn : Stage → Bool} {caller : Caller ε α} (waits : state.caller.Waits fn caller)
    (client : state.worker.stage.clients () = .checking fn none)
    (refuses : fn state.worker.stage.value = false)
    : Move place current state .check (state.setClient (.syncWaiting fn false))
  | wakes {fn : Stage → Bool} {caller : Caller ε α} (waits : state.caller.Waits fn caller)
    (client : state.worker.stage.clients () = .syncWaiting fn true)
    : Move place current state .resume (state.setClient (.checking fn none))
  | calls {cancel : Bool} (idle : state.caller.Idle)
    : Move place current state (.finish cancel) (state.finish cancel)
  | asks (here : state.caller = .asking)
    : Move place current state .callSoonThreadsafe state.callSoonThreadsafe.waitForJoin
  | joins (here : state.caller = .joining) (ended : state.worker.place = .finished)
    : Move place current state .join (state.conclude place current)

/-- A step of the thread is one of the worker, and tells whose loop the task is of. -/
theorem threads_of_step {event : ThreadEvent (Exception ε) α}
    (stepped : state.threadStep event = some next)
    : Move place current state (.thread event) next := by
  cases event with
  | ensureFuture =>
      obtain ⟨worker, moved, rfl⟩ := Option.map_eq_some_iff.mp stepped
      refine .threads moved (.inr ?_)
      cases ThreadLoop.threadMove_of_step moved with
      | wraps => rfl
  | runReturns =>
      simp only [State.threadStep, Option.ite_none_left_eq_some] at stepped
      obtain ⟨worker, moved, rfl⟩ := Option.map_eq_some_iff.mp stepped.2
      exact .threads moved (.inl rfl)
  | ensureFutureReturns _ | ensureFutureRaises _ | setRunning | taskEnds _ | runRaises _ | setJoin
  | returns =>
      obtain ⟨worker, moved, rfl⟩ := Option.map_eq_some_iff.mp stepped
      exact .threads moved (.inl rfl)

theorem Caller.Waits.of_fits {caller : Caller ε α} {client : ThreadsafeState.Client Stage}
    {fn : Stage → Bool} (fits : caller.Fits client) (here : caller = .launching ∨ caller = .waiting)
    (waits : (∃ loop, client = .checking fn loop) ∨ ∃ notified, client = .syncWaiting fn notified)
    : ∃ next, caller.Waits fn next := by
  rcases here with rfl | rfl <;> rcases waits with ⟨loop, rfl⟩ | ⟨notified, rfl⟩
  · obtain ⟨rfl, -⟩ := fits
    exact ⟨_, .launches⟩
  · obtain rfl : fn = isRunning := fits
    exact ⟨_, .launches⟩
  · obtain ⟨rfl, -⟩ := fits
    exact ⟨_, .finishes⟩
  · obtain rfl : fn = isJoin := fits
    exact ⟨_, .finishes⟩

/-- A caller that waits and is told to go on does. -/
theorem Caller.Waits.proceed {fn : Stage → Bool} {caller : Caller ε α}
    (waits : state.caller.Waits fn caller) {value : Stage}
    (client : state.worker.stage.clients () = .returned fn value)
    : state.proceed = { state with caller } := by
  unfold State.proceed
  rw [client]
  generalize state.caller = here at waits
  cases waits <;> rfl

/-- Elsewhere in `stage.wait_until_sync()` it stays. -/
theorem proceed_of_inCall (inCall : (state.worker.stage.clients ()).inCall = true)
    : state.proceed = state := by
  unfold State.proceed
  cases client : state.worker.stage.clients () <;>
    simp_all [ThreadsafeState.Client.inCall]

theorem move_of_check (fits : state.caller.Fits (state.worker.stage.clients ()))
    (here : state.caller = .launching ∨ state.caller = .waiting)
    (stepped : state.awaitStage (state.worker.onStage (.check ())) = some next)
    : Move place current state .check next := by
  obtain ⟨worker, moved, rfl⟩ := Option.map_eq_some_iff.mp stepped
  obtain ⟨stage, checked, rfl⟩ := Option.map_eq_some_iff.mp moved
  cases ThreadsafeState.move_of_step checked with
  | @checks _ fn loop client =>
      obtain ⟨caller, waits⟩ := Caller.Waits.of_fits fits here (.inl ⟨loop, client⟩)
      obtain rfl : loop = none := by
        rw [client] at fits
        rcases here with here | here <;> exact (here ▸ fits).2
      cases accepts : fn state.worker.stage.value with
      | true =>
          simp only [ThreadsafeState.State.check, accepts, if_true]
          have passed
              : (state.setClient (.returned fn state.worker.stage.value)).proceed = _ :=
            @Caller.Waits.proceed _ _ (state.setClient _) _ _ waits _ (clients_setClient state _)
          exact passed ▸ .passes waits client accepts
      | false =>
          simp only [ThreadsafeState.State.check, accepts, Bool.false_eq_true, if_false]
          have held : (state.setClient (.syncWaiting fn false)).proceed = _ :=
            proceed_of_inCall (by rw [clients_setClient]; rfl)
          exact held ▸ .holds waits client accepts

theorem move_of_resume (fits : state.caller.Fits (state.worker.stage.clients ()))
    (here : state.caller = .launching ∨ state.caller = .waiting)
    (stepped : state.awaitStage (state.worker.onStage (.resume ())) = some next)
    : Move place current state .resume next := by
  obtain ⟨worker, moved, rfl⟩ := Option.map_eq_some_iff.mp stepped
  obtain ⟨stage, resumed, rfl⟩ := Option.map_eq_some_iff.mp moved
  cases ThreadsafeState.move_of_step resumed with
  | throws client | resumes client =>
      rw [client] at fits
      rcases here with here | here
      · rw [here] at fits
        exact fits.elim
      · rw [here] at fits
        exact fits.elim
  | @resumesSync _ fn client =>
      obtain ⟨caller, waits⟩ := Caller.Waits.of_fits fits here (.inr ⟨true, client⟩)
      have woken : (state.setClient (.checking fn none)).proceed = _ :=
        proceed_of_inCall (by rw [clients_setClient]; rfl)
      exact woken ▸ .wakes waits client

theorem move_of_step {event : Event ε α} (fits : state.caller.Fits (state.worker.stage.clients ()))
    (stepped : step place current state event = some next)
    : Move place current state event next := by
  cases event with
  | thread event => exact threads_of_step stepped
  | runCancel =>
      simp only [step, Option.ite_none_right_eq_some] at stepped
      exact Option.some.inj stepped.2 ▸ .runsCancel stepped.1.1
  | closeLoop =>
      simp only [step, Option.ite_none_right_eq_some] at stepped
      exact Option.some.inj stepped.2 ▸ .closes stepped.1.1 stepped.1.2
  | waitUntilSync =>
      simp only [step] at stepped
      split at stepped
      case h_1 here =>
          obtain ⟨worker, moved, rfl⟩ := Option.map_eq_some_iff.mp stepped
          simp only [LaunchSync.step] at moved
          split at moved
          case h_1 client =>
              obtain ⟨stage, begun, rfl⟩ := Option.map_eq_some_iff.mp moved
              cases ThreadsafeState.move_of_step begun with
              | beginsSync =>
                  rw [proceed_of_inCall (by simp [ThreadsafeState.State.begin,
                    ThreadsafeState.State.setClient, ThreadsafeState.Client.inCall])]
                  exact .launches here client
          all_goals contradiction
      all_goals contradiction
  | check =>
      simp only [step] at stepped
      split at stepped
      case h_1 here => exact move_of_check fits (.inl here) stepped
      case h_2 here => exact move_of_check fits (.inr here) stepped
      all_goals contradiction
  | resume =>
      simp only [step] at stepped
      split at stepped
      case h_1 here => exact move_of_resume fits (.inl here) stepped
      case h_2 here => exact move_of_resume fits (.inr here) stepped
      all_goals contradiction
  | finish cancel =>
      simp only [step] at stepped
      split at stepped
      case h_1 here | h_2 here =>
          exact Option.some.inj stepped ▸ .calls (by simp [here, Caller.Idle])
      all_goals contradiction
  | callSoonThreadsafe =>
      simp only [step] at stepped
      split at stepped
      case h_1 here => exact Option.some.inj stepped ▸ .asks here
      all_goals contradiction
  | join =>
      simp only [step] at stepped
      split at stepped
      case h_1 here =>
          simp only [Option.ite_none_right_eq_some] at stepped
          exact Option.some.inj stepped.2 ▸ .joins here stepped.1
      all_goals contradiction

-----------------------------------------------------------------------------------------
-- What holds in every state of a run
-----------------------------------------------------------------------------------------

/-- What the thread knows of its task and has absorbed. -/
structure Settles (worker : ThreadLoop.State (Exception ε) α) : Prop where
  shows : worker.place.Shows worker.stage.value
  starts : worker.place = .starting → worker.attached = false ∧ worker.task = none
  tasked
    : worker.place = .created ∨ worker.stage.value = .running → worker.task.isSome = true
  absorbed
    : worker.place.Absorbed = true
      → ∃ result,
          worker.result = some result
          ∧ result.done = true
          ∧ (worker.attached = true → worker.task = some result)

theorem settles_initial : Settles (.initial : ThreadLoop.State (Exception ε) α) :=
  ⟨rfl, fun _ => ⟨rfl, rfl⟩, by simp [ThreadLoop.State.initial, ThreadsafeState.State.initial],
    fun absorbed => (Bool.false_ne_true absorbed).elim⟩

theorem Settles.threadStep {worker next : ThreadLoop.State (Exception ε) α}
    {event : ThreadEvent (Exception ε) α} (settles : Settles worker)
    (stepped : ThreadLoop.threadStep worker event = some next)
    : Settles next := by
  have shows := settles.shows
  have showsNext := ThreadLoop.shows_threadStep shows stepped
  cases ThreadLoop.threadMove_of_step stepped with
  | wraps | hands =>
      exact ⟨showsNext, by simp, fun _ => rfl, fun absorbed => (Bool.false_ne_true absorbed).elim⟩
  | refuses here =>
      have preparing : worker.stage.value = .preparing := by simpa [here, Place.Shows] using shows
      refine ⟨showsNext, by simp [ThreadLoop.State.absorb], ?_, fun _ => ⟨_, rfl, rfl, ?_⟩⟩
      · simp [ThreadLoop.State.absorb, preparing]
      · simp [ThreadLoop.State.absorb, (settles.starts here).1]
  | setsRunning here =>
      exact ⟨showsNext, by simp [ThreadLoop.State.setStage],
        fun _ => settles.tasked (.inl here), fun absorbed => (Bool.false_ne_true absorbed).elim⟩
  | ends own =>
      refine ⟨showsNext, fun starting => ?_, fun _ => rfl, fun absorbed => ?_⟩
      · simp [(settles.starts starting).2] at own
      obtain ⟨result, has, done, same⟩ := settles.absorbed absorbed
      refine ⟨result, has, done, fun attached => ?_⟩
      rw [Option.some.inj ((same attached).symm.trans own)] at done
      contradiction
  | runs here own done =>
      have running : worker.stage.value = .running := by simpa [here, Place.Shows] using shows
      exact ⟨showsNext, by simp [ThreadLoop.State.absorb],
        fun _ => settles.tasked (.inr running), fun _ => ⟨_, rfl, done, fun _ => own⟩⟩
  | raises here detached =>
      have running : worker.stage.value = .running := by simpa [here, Place.Shows] using shows
      refine ⟨showsNext, by simp [ThreadLoop.State.absorb],
        fun _ => settles.tasked (.inr running), fun _ => ⟨_, rfl, rfl, ?_⟩⟩
      simp [ThreadLoop.State.absorb, detached]
  | setsJoin here =>
      refine ⟨showsNext, by simp [ThreadLoop.State.setStage], ?_,
        fun _ => settles.absorbed (by simp [here, Place.Absorbed])⟩
      simp [ThreadLoop.State.setStage]
  | finishes here =>
      have joined : worker.stage.value = .join := by simpa [here, Place.Shows] using shows
      exact ⟨showsNext, by simp, by simp [joined],
        fun _ => settles.absorbed (by simp [here, Place.Absorbed])⟩

/-- What a caller has found out. -/
def Caller.Knows (place : Suppress.Place) (current : Task)
    (worker : ThreadLoop.State (Exception ε) α) : Caller ε α → Prop
  | launching => True
  | ready | asking | waiting => worker.task.isSome = true ∧ worker.stage.value ≠ .preparing
  | joining => worker.task.isSome = true ∧ worker.stage.value = .join
  | exited outcome =>
      worker.task.isSome = true
      ∧ worker.place = .finished
      ∧ ∃ result, worker.result = some result ∧ outcome = apply place current result

structure Sound (place : Suppress.Place) (current : Task) (state : State ε α) : Prop where
  settles : Settles state.worker
  fits : state.caller.Fits (state.worker.stage.clients ())
  knows : state.caller.Knows place current state.worker
  attached : state.own = true → state.worker.attached = true
  released : state.closed = true → state.Released

theorem sound_initial : Sound place current (.initial : State ε α) :=
  ⟨settles_initial, trivial, trivial, by simp [State.initial], by simp [State.initial]⟩

theorem Settles.joined_of_finished {worker : ThreadLoop.State (Exception ε) α}
    (settles : Settles worker) (ended : worker.place = .finished)
    : worker.stage.value = .join := by
  simpa [ended, Place.Shows] using settles.shows

/-- A caller that does not launch any more has a task, and the stage is past its first value. -/
theorem Caller.Knows.launched {caller : Caller ε α} {worker : ThreadLoop.State (Exception ε) α}
    (knows : caller.Knows place current worker) (settles : Settles worker)
    (launched : caller ≠ .launching)
    : worker.task.isSome = true ∧ worker.stage.value ≠ .preparing := by
  cases caller with
  | launching => exact absurd rfl launched
  | ready | asking | waiting => exact knows
  | joining => exact ⟨knows.1, by simp [knows.2]⟩
  | exited outcome => exact ⟨knows.1, by simp [settles.joined_of_finished knows.2.1]⟩

theorem Caller.Fits.notify {caller : Caller ε α} {client : ThreadsafeState.Client Stage}
    (fits : caller.Fits client)
    : caller.Fits client.notify := by
  cases caller <;> cases client <;> exact fits

theorem Caller.Fits.threadStep {caller : Caller ε α}
    {worker next : ThreadLoop.State (Exception ε) α} {event : ThreadEvent (Exception ε) α}
    (fits : caller.Fits (worker.stage.clients ()))
    (stepped : ThreadLoop.threadStep worker event = some next)
    : caller.Fits (next.stage.clients ()) := by
  rcases ThreadLoop.stage_threadStep stepped with ⟨stage, _⟩ | ⟨value, stage, _⟩
  · exact stage ▸ fits
  · rw [stage, ThreadLoop.clients_setValue]
    split
    · exact fits
    · exact fits.notify

/-- The thread keeps its task once it has one, and does not change the stage back. -/
theorem Settles.kept {worker next : ThreadLoop.State (Exception ε) α}
    {event : ThreadEvent (Exception ε) α} (settles : Settles worker)
    (stepped : ThreadLoop.threadStep worker event = some next)
    (tasked : worker.task.isSome = true)
    : next.task.isSome = true
      ∧ next.attached = worker.attached
      ∧ ∀ task, worker.task = some task → task.done = true → next.task = some task := by
  cases ThreadLoop.threadMove_of_step stepped with
  | wraps here | hands here => simp [(settles.starts here).2] at tasked
  | ends own => exact ⟨rfl, rfl, by simp [own]⟩
  | refuses | setsRunning | runs | raises | setsJoin | finishes =>
      exact ⟨tasked, rfl, fun _ has _ => has⟩

theorem Settles.value_kept {worker next : ThreadLoop.State (Exception ε) α}
    {event : ThreadEvent (Exception ε) α} (settles : Settles worker)
    (stepped : ThreadLoop.threadStep worker event = some next)
    (launched : worker.stage.value ≠ .preparing)
    : next.stage.value = worker.stage.value ∨ next.stage.value = .join := by
  have shows := settles.shows
  cases ThreadLoop.threadMove_of_step stepped with
  | wraps here | hands here | refuses here | setsRunning here =>
      exact absurd (by simpa [here, Place.Shows] using shows) launched
  | ends | runs | raises | finishes => exact .inl rfl
  | setsJoin => exact .inr (by simp [ThreadLoop.State.setStage])

theorem ended_kept {worker next : ThreadLoop.State (Exception ε) α}
    {event : ThreadEvent (Exception ε) α}
    (stepped : ThreadLoop.threadStep worker event = some next) (ended : worker.place = .finished)
    : next.place = .finished ∧ next.result = worker.result := by
  cases ThreadLoop.threadMove_of_step stepped with
  | ends => exact ⟨ended, rfl⟩
  | wraps here | hands here | refuses here | setsRunning here | runs here | raises here
  | setsJoin here | finishes here => simp [here] at ended

/-- What a caller has found out stays so while the thread goes on. -/
theorem Caller.Knows.threadStep {caller : Caller ε α}
    {worker next : ThreadLoop.State (Exception ε) α} {event : ThreadEvent (Exception ε) α}
    (knows : caller.Knows place current worker) (settles : Settles worker)
    (stepped : ThreadLoop.threadStep worker event = some next)
    : caller.Knows place current next := by
  have value_kept := settles.value_kept stepped
  cases caller with
  | launching => trivial
  | ready | asking | waiting =>
      refine ⟨(settles.kept stepped knows.1).1, ?_⟩
      rcases value_kept knows.2 with same | joined
      · exact same ▸ knows.2
      · simp [joined]
  | joining =>
      refine ⟨(settles.kept stepped knows.1).1, ?_⟩
      rcases value_kept (by simp [knows.2]) with same | joined
      · exact same.trans knows.2
      · exact joined
  | exited outcome =>
      obtain ⟨tasked, ended, result, has, same⟩ := knows
      obtain ⟨place, kept⟩ := ended_kept stepped ended
      exact ⟨(settles.kept stepped tasked).1, place, result, kept.trans has, same⟩

/-- A task that is released stays so while the thread goes on. -/
theorem Settles.released_kept {worker : ThreadLoop.State (Exception ε) α} {own : Bool}
    {event : ThreadEvent (Exception ε) α} (settles : Settles state.worker)
    (stepped : ThreadLoop.threadStep state.worker event = some worker) (released : state.Released)
    : { state with worker, own }.Released := by
  obtain ⟨task, has, past⟩ := released
  obtain ⟨tasked, attached, kept⟩ := settles.kept stepped (by simp [has])
  rcases past with done | detached
  · exact ⟨task, kept task has done, .inl done⟩
  · obtain ⟨task, has⟩ := Option.isSome_iff_exists.mp tasked
    exact ⟨task, has, .inr (attached.trans detached)⟩

theorem Settles.attached_kept {worker next : ThreadLoop.State (Exception ε) α}
    {event : ThreadEvent (Exception ε) α} (settles : Settles worker)
    (stepped : ThreadLoop.threadStep worker event = some next) (attached : worker.attached = true)
    : next.attached = true := by
  cases ThreadLoop.threadMove_of_step stepped with
  | wraps here | hands here => simp [(settles.starts here).1] at attached
  | refuses | setsRunning | ends | runs | raises | setsJoin | finishes => exact attached

theorem Settles.withStage {worker : ThreadLoop.State (Exception ε) α} (settles : Settles worker)
    {stage : ThreadsafeState.State Unit Stage} (same : stage.value = worker.stage.value)
    : Settles { worker with stage } :=
  ⟨same ▸ settles.shows, settles.starts, same ▸ settles.tasked, settles.absorbed⟩

/-- The caller moves, and the value of the stage stays. -/
theorem Sound.withCaller (sound : Sound place current state)
    {stage : ThreadsafeState.State Unit Stage} {caller : Caller ε α} {scheduled requests : Nat}
    (same : stage.value = state.worker.stage.value) (fits : caller.Fits (stage.clients ()))
    (knows : caller.Knows place current { state.worker with stage })
    : Sound place current
        { state with worker := { state.worker with stage }, caller, scheduled, requests } where
  settles := sound.settles.withStage same
  fits := fits
  knows := knows
  attached := sound.attached
  released := sound.released

theorem Sound.waitForJoin (sound : Sound place current state) (scheduled requests : Nat)
    (tasked : state.worker.task.isSome = true) (launched : state.worker.stage.value ≠ .preparing)
    : Sound place current { state with scheduled, requests }.waitForJoin := by
  refine sound.withCaller rfl ?_ ⟨tasked, launched⟩
  simp [ThreadsafeState.State.begin, ThreadsafeState.State.setClient, Caller.Fits]

theorem Sound.runCancel (sound : Sound place current state)
    : Sound place current state.runCancel := by
  unfold State.runCancel
  split
  · exact sound.withCaller rfl sound.fits sound.knows
  · exact sound.withCaller rfl sound.fits sound.knows
  · exact sound.withCaller rfl sound.fits sound.knows
  · exact sound.withCaller rfl sound.fits sound.knows
  · exact sound.withCaller rfl sound.fits sound.knows

/-- A predicate of the caller that holds tells it what it waited for. -/
theorem Caller.Waits.knows {caller next : Caller ε α} {fn : Stage → Bool}
    (waits : caller.Waits fn next) {worker : ThreadLoop.State (Exception ε) α}
    (settles : Settles worker) (knows : caller.Knows place current worker)
    (accepts : fn worker.stage.value = true)
    : next.Knows place current worker := by
  cases waits with
  | launches =>
      have running : worker.stage.value = .running := by simpa [isRunning] using accepts
      exact ⟨settles.tasked (.inr running), by simp [running]⟩
  | finishes => exact ⟨knows.1, by simpa [isJoin] using accepts⟩

theorem Caller.Waits.fits {caller next : Caller ε α} {fn : Stage → Bool}
    (waits : caller.Waits fn next) (client : ThreadsafeState.Client Stage)
    : next.Fits client
      ∧ caller.Fits (.checking fn none)
      ∧ ∀ notified, caller.Fits (.syncWaiting fn notified) := by
  cases waits with
  | launches | finishes => exact ⟨trivial, ⟨rfl, rfl⟩, fun _ => rfl⟩

theorem Sound.finish (sound : Sound place current state) (idle : state.caller.Idle)
    (cancel : Bool)
    : Sound place current (state.finish cancel) := by
  obtain ⟨tasked, launched⟩ : state.worker.task.isSome = true
      ∧ state.worker.stage.value ≠ .preparing := by
    apply sound.knows.launched sound.settles
    intro launching
    simp [launching, Caller.Idle] at idle
  unfold State.finish
  split
  · rename_i none
    simp [none] at tasked
  · cases cancel with
    | true => exact sound.withCaller rfl trivial ⟨tasked, launched⟩
    | false => exact sound.waitForJoin _ _ tasked launched

/-- Every step keeps the invariant, by cases on the moves. -/
theorem Sound.step {event : Event ε α} (sound : Sound place current state)
    (stepped : FinishSync.step place current state event = some next)
    : Sound place current next := by
  have settles := sound.settles
  have fits := sound.fits
  have knows := sound.knows
  cases move_of_step fits stepped with
  | threads moved attached =>
      refine ⟨settles.threadStep moved, fits.threadStep moved, knows.threadStep settles moved, ?_,
        fun closed => settles.released_kept moved (sound.released closed)⟩
      intro own
      rcases attached with same | attached
      · exact settles.attached_kept moved (sound.attached (same ▸ own))
      · exact attached
  | runsCancel => exact sound.runCancel
  | closes released opened => exact ⟨settles, fits, knows, sound.attached, fun _ => released⟩
  | launches here client =>
      refine sound.withCaller rfl ?_ (here ▸ trivial)
      rw [here]
      simp [ThreadsafeState.State.begin, ThreadsafeState.State.setClient, Caller.Fits]
  | passes waits client accepts =>
      exact sound.withCaller rfl (waits.fits _).1 (waits.knows (settles.withStage rfl) knows accepts)
  | holds waits client refuses =>
      refine sound.withCaller rfl ?_ knows
      simpa [ThreadsafeState.State.setClient] using (waits.fits .idle).2.2 false
  | wakes waits client =>
      refine sound.withCaller rfl ?_ knows
      simpa [ThreadsafeState.State.setClient] using (waits.fits .idle).2.1
  | calls idle => exact sound.finish idle _
  | asks here =>
      rw [here] at knows
      unfold State.callSoonThreadsafe
      split
      · exact sound.waitForJoin _ _ knows.1 knows.2
      · exact sound.waitForJoin _ _ knows.1 knows.2
  | joins here ended =>
      rw [here] at knows
      obtain ⟨result, has, done, same⟩ := settles.absorbed (by simp [ended, Place.Absorbed])
      unfold State.conclude
      rw [has]
      exact sound.withCaller rfl trivial ⟨knows.1, ended, result, has, rfl⟩

/-- The invariant of every run, by induction on the events. -/
theorem run_sound {events : List (Event ε α)}
    (reached : Transition.run (step place current) .initial events = some final)
    : Sound place current final :=
  Transition.run_preserves (fun _ _ _ sound stepped => Sound.step sound stepped) sound_initial
    reached

/-- A call of `finish()` that is to cancel the target. -/
def Event.cancels : Event ε α → Bool
  | .finish cancel => cancel
  | .thread _ | .runCancel | .closeLoop | .waitUntilSync | .check | .resume | .callSoonThreadsafe
  | .join => false

/-- A call of `call_soon_threadsafe(task.cancel)`. -/
def Event.asks : Event ε α → Bool
  | .callSoonThreadsafe => true
  | .thread _ | .runCancel | .closeLoop | .waitUntilSync | .check | .resume | .finish _
  | .join => false

/-- The calls of `call_soon_threadsafe()` that are still to come. -/
def Caller.toAsk : Caller ε α → Nat
  | asking => 1
  | launching | ready | waiting | joining | exited _ => 0

/-- Nothing has ended the task yet. -/
def State.Unended (state : State ε α) : Prop :=
  state.closed = false ∧ ∀ task, state.worker.task = some task → task.done = false

/-- Each request comes from a call, and none is lost before the task has ended. -/
structure Asked (past : List (Event ε α)) (state : State ε α) : Prop where
  unasked : state.caller = .launching → state.scheduled = 0
  called : state.requests + state.scheduled + state.caller.toAsk ≤ past.countP Event.cancels
  kept : state.Unended → state.requests + state.scheduled = past.countP Event.asks

theorem asked_initial : Asked [] (.initial : State ε α) :=
  ⟨fun _ => rfl, Nat.le_refl 0, fun _ => rfl⟩

/-- A step that is none of the calls. -/
theorem Asked.quiet {past : List (Event ε α)} {event : Event ε α} (asked : Asked past state)
    (noCall : event.cancels = false) (noAsk : event.asks = false)
    (unasked : next.caller = .launching → next.scheduled = 0)
    (same : next.requests + next.scheduled = state.requests + state.scheduled)
    (toAsk : next.caller.toAsk ≤ state.caller.toAsk) (unended : next.Unended → state.Unended)
    : Asked (past ++ [event]) next := by
  have called := asked.called
  refine ⟨unasked, ?_, fun here => ?_⟩
  · simp only [List.countP_append, List.countP_singleton, noCall, Bool.false_eq_true, if_false]
    omega
  · have kept := asked.kept (unended here)
    simp only [List.countP_append, List.countP_singleton, noAsk, Bool.false_eq_true, if_false]
    omega

theorem unended_of_thread {worker : ThreadLoop.State (Exception ε) α} {own : Bool}
    {event : ThreadEvent (Exception ε) α}
    (stepped : ThreadLoop.threadStep state.worker event = some worker)
    (settles : Settles state.worker) (unended : { state with worker, own }.Unended)
    : state.Unended := by
  refine ⟨unended.1, fun task has => ?_⟩
  have tasked : state.worker.task.isSome = true := by simp [has]
  by_contra done
  have kept := (settles.kept stepped tasked).2.2 task has (by simpa using done)
  exact done (unended.2 task kept)

theorem Caller.Waits.passed {caller next : Caller ε α} {fn : Stage → Bool}
    (waits : caller.Waits fn next)
    : next ≠ .launching ∧ next.toAsk = 0 := by
  cases waits <;> simp [Caller.toAsk]

/-- A call that the loop runs finds the task pending, or the task has ended. -/
theorem Asked.runCancel {past : List (Event ε α)} (asked : Asked past state)
    (inFlight : 0 < state.scheduled) (tasked : state.worker.task.isSome = true)
    : Asked (past ++ [.runCancel]) state.runCancel := by
  have called := asked.called
  have launched (launching : state.caller = .launching) : False := by
    simp [asked.unasked launching] at inFlight
  cases has : state.worker.task with
  | none => simp [has] at tasked
  | some task =>
      cases task with
      | pending =>
          simp only [State.runCancel, has]
          refine asked.quiet rfl rfl (fun here => (launched here).elim) ?_ (Nat.le_refl _) id
          simp only
          omega
      | cancelled | exception _ | success _ =>
          simp only [State.runCancel, has]
          refine ⟨fun here => (launched here).elim, ?_, fun unended => ?_⟩
          · simp only [List.countP_append]
            omega
          · exact absurd (unended.2 _ has) (by simp)

theorem Asked.step {past : List (Event ε α)} {event : Event ε α} (asked : Asked past state)
    (sound : Sound place current state)
    (stepped : FinishSync.step place current state event = some next)
    : Asked (past ++ [event]) next := by
  have called := asked.called
  cases move_of_step sound.fits stepped with
  | threads moved attached =>
      exact asked.quiet rfl rfl asked.unasked rfl (Nat.le_refl _)
        (unended_of_thread moved sound.settles)
  | runsCancel inFlight =>
      refine asked.runCancel inFlight (sound.knows.launched sound.settles ?_).1
      intro launching
      simp [asked.unasked launching] at inFlight
  | closes =>
      exact asked.quiet rfl rfl asked.unasked rfl (Nat.le_refl _) (fun unended => by cases unended.1)
  | launches here client => exact asked.quiet rfl rfl asked.unasked rfl (Nat.le_refl _) id
  | passes waits client accepts =>
      obtain ⟨launched, toAsk⟩ := waits.passed
      exact asked.quiet rfl rfl (fun here => absurd here launched) rfl (toAsk ▸ Nat.zero_le _) id
  | holds | wakes => exact asked.quiet rfl rfl asked.unasked rfl (Nat.le_refl _) id
  | @calls cancel idle =>
      have launched : state.caller ≠ .launching := by
        intro launching
        simp [launching, Caller.Idle] at idle
      obtain ⟨task, has⟩ := Option.isSome_iff_exists.mp
        (sound.knows.launched sound.settles launched).1
      simp only [State.finish, has]
      cases cancel with
      | true =>
          refine ⟨by simp, ?_, fun unended => ?_⟩
          · simp only [List.countP_append, List.countP_singleton, Event.cancels, if_true,
              Caller.toAsk]
            omega
          · simpa [List.countP_append, Event.asks] using asked.kept unended
      | false => exact asked.quiet rfl rfl (by simp [State.waitForJoin]) rfl (Nat.zero_le _) id
  | asks here =>
      rw [here] at called
      simp only [Caller.toAsk] at called
      unfold State.callSoonThreadsafe
      split
      · rename_i closed
        refine ⟨by simp [State.waitForJoin], ?_, fun unended => ?_⟩
        · simp only [State.waitForJoin, List.countP_append, Caller.toAsk]
          omega
        · simp [State.waitForJoin, State.Unended, closed] at unended
      · refine ⟨by simp [State.waitForJoin], ?_, fun unended => ?_⟩
        · simp only [State.waitForJoin, List.countP_append, Caller.toAsk]
          omega
        · have kept := asked.kept unended
          simp only [State.waitForJoin, List.countP_append, List.countP_singleton, Event.asks,
            if_true]
          omega
  | joins here ended =>
      obtain ⟨result, has, -⟩ := sound.settles.absorbed (by simp [ended, Place.Absorbed])
      simp only [State.conclude, has]
      exact asked.quiet rfl rfl (by simp) rfl (Nat.zero_le _) id

/-- The target is asked to cancel at most as often as `finish(cancel=True)` is called, so never
without such a call; and as long as a task of the thread's loop is pending, each call of
`call_soon_threadsafe(task.cancel)` has asked it or will.
-/
theorem finish_requests {events : List (Event ε α)}
    (reached : Transition.run (step place current) .initial events = some final)
    : final.requests ≤ events.countP Event.cancels
      ∧ (final.own = true
        → final.worker.task = some .pending
        → final.requests + final.scheduled = events.countP Event.asks) := by
  have holds : Asked events final ∧ Sound place current final :=
    Transition.run_preserves_history
      (P := fun past (state : State ε α) => Asked past state ∧ Sound place current state)
      (fun _ _ _ _ holds stepped => ⟨holds.1.step holds.2 stepped, holds.2.step stepped⟩)
      ⟨asked_initial, sound_initial⟩ reached
  obtain ⟨asked, sound⟩ := holds
  have called := asked.called
  refine ⟨by omega, fun own pending => asked.kept ⟨?_, ?_⟩⟩
  · by_contra closed
    obtain ⟨task, has, ended⟩ := sound.released (by simpa using closed)
    rw [Option.some.inj (has.symm.trans pending), sound.attached own] at ended
    simp at ended
  · intro task has
    rw [Option.some.inj (has.symm.trans pending)]
    rfl

/-- A call that is to cancel a target which goes on. -/
theorem finish_requests_scheduled
    : ∃ final : State String Nat,
        Transition.run (step .noLoop ⟨0, none⟩) .initial
            [.waitUntilSync, .check, .thread .ensureFuture, .thread .setRunning, .resume, .check,
              .finish true, .callSoonThreadsafe]
          = some final
        ∧ final.requests ≤ 1
        ∧ final.requests + final.scheduled = 1 := by
  have reached : Transition.run (step .noLoop ⟨0, none⟩) (.initial : State String Nat)
      [.waitUntilSync, .check, .thread .ensureFuture, .thread .setRunning, .resume, .check,
        .finish true, .callSoonThreadsafe] = some _ := rfl
  obtain ⟨few, kept⟩ := finish_requests reached
  exact ⟨_, reached, few, kept rfl rfl⟩

end Aiodrive.FinishSync
