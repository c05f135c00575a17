import Aiodrive.Process.Model

/-! The signals that `Process.wait()` sends, and how it ends, in every order of the requests on its
task and the exit of the process.
-/

namespace Aiodrive.Process

variable {ς : Type*} {firstSignal subsequentSignals : ς}

theorem signalsFor_succ (firstSignal subsequentSignals : ς) (count : Nat)
    : signalsFor firstSignal subsequentSignals (count + 1)
      = signalsFor firstSignal subsequentSignals count
        ++ [if 0 < count then subsequentSignals else firstSignal] := by
  cases count with
  | zero => rfl
  | succ count => simp [signalsFor, List.replicate_succ']

-----------------------------------------------------------------------------------------
-- What a step can do
-----------------------------------------------------------------------------------------

/-- The steps, one constructor for each branch. -/
inductive Move (firstSignal subsequentSignals : ς) (state : State ς) : Event → State ς → Prop where
  | exits {pipes : List Nat} (code : Int) (runs : state.proc = .running pipes)
    : Move firstSignal subsequentSignals state (.exits code)
        { state with proc := .exited code pipes }
  | disconnects {pipe : Nat} (connected : pipe ∈ state.proc.pipes)
    : Move firstSignal subsequentSignals state (.disconnects pipe)
        { state with proc := state.proc.disconnect pipe }
  /-- The transport is lost while the call waits. -/
  | tells {code : Int} {inLoop : Bool} (exited : state.proc = .exited code [])
    (here : state.place = .waiting inLoop .pending)
    : Move firstSignal subsequentSignals state .loses
        { state with proc := .lost code, place := .waiting inLoop (.success code) }
  | loses {code : Int} (exited : state.proc = .exited code [])
    (awake : ∀ inLoop, state.place ≠ .waiting inLoop .pending)
    : Move firstSignal subsequentSignals state .loses { state with proc := .lost code }
  | cancels {inLoop : Bool} {waiter : FutureState Empty Int} (message : Option String)
    (here : state.place = .waiting inLoop waiter)
    : Move firstSignal subsequentSignals state (.cancel message)
        { state with task := state.task.cancel message, place := .waiting inLoop .cancelled }
  | returns {inLoop : Bool} {code : Int} (here : state.place = .waiting inLoop (.success code))
    : Move firstSignal subsequentSignals state .resume (state.conclude code)
  /-- A signal to a process that runs, which is waited for again. -/
  | signals {inLoop : Bool} {pipes : List Nat} (here : state.place = .waiting inLoop .cancelled)
    (runs : state.proc = .running pipes)
    : Move firstSignal subsequentSignals state .resume
        { state with
          thrown := state.thrown + 1
          signals := state.signals ++ [if inLoop then subsequentSignals else firstSignal]
          place := .waiting true .pending }
  | misses {inLoop : Bool} {code : Int} {pipes : List Nat}
    (here : state.place = .waiting inLoop .cancelled) (exited : state.proc = .exited code pipes)
    : Move firstSignal subsequentSignals state .resume
        (State.conclude { state with thrown := state.thrown + 1 } code)
  | fails {inLoop : Bool} {code : Int} (here : state.place = .waiting inLoop .cancelled)
    (lost : state.proc = .lost code)
    : Move firstSignal subsequentSignals state .resume
        { state with
          thrown := state.thrown + 1
          place := .ended (.raised (.exception .processLookupError)) }

/-- A `CancelledError` in the call. -/
theorem move_interrupt {state : State ς} {inLoop : Bool}
    (here : state.place = .waiting inLoop .cancelled)
    : Move firstSignal subsequentSignals state .resume
        (state.interrupt firstSignal subsequentSignals inLoop) := by
  cases known : state.proc with
  | running pipes =>
      have sent
          : state.interrupt firstSignal subsequentSignals inLoop
            = { state with
                thrown := state.thrown + 1
                signals := state.signals ++ [if inLoop then subsequentSignals else firstSignal]
                place := .waiting true .pending } := by
        simp [State.interrupt, State.sendSignal, State.wait, known, Proc.returncode]
      exact sent ▸ .signals here known
  | exited code pipes =>
      have ended
          : state.interrupt firstSignal subsequentSignals inLoop
            = State.conclude { state with thrown := state.thrown + 1 } code := by
        simp [State.interrupt, State.sendSignal, State.wait, known, Proc.returncode]
      exact ended ▸ .misses here known
  | lost code =>
      have failed
          : state.interrupt firstSignal subsequentSignals inLoop
            = { state with
                thrown := state.thrown + 1
                place := .ended (.raised (.exception .processLookupError)) } := by
        simp [State.interrupt, State.sendSignal, known]
      exact failed ▸ .fails here known

/-- The transport is lost, where the call waits or not. -/
theorem move_lose {state : State ς} {code : Int} (exited : state.proc = .exited code [])
    : Move firstSignal subsequentSignals state .loses
        { state with proc := .lost code, place := state.place.tell code } := by
  by_cases asleep : ∃ inLoop, state.place = .waiting inLoop .pending
  · obtain ⟨inLoop, here⟩ := asleep
    rw [here]
    exact .tells exited here
  · have awake : ∀ inLoop, state.place ≠ .waiting inLoop .pending :=
      fun inLoop here => asleep ⟨inLoop, here⟩
    rw [Place.tell_eq_self awake]
    exact .loses exited awake

theorem move_of_step {state next : State ς} {event : Event}
    (stepped : step firstSignal subsequentSignals state event = some next)
    : Move firstSignal subsequentSignals state event next := by
  cases event with
  | exits code =>
      simp only [step] at stepped
      split at stepped
      · rename_i runs
        exact Option.some.inj stepped ▸ .exits code runs
      all_goals contradiction
  | disconnects pipe =>
      simp only [step] at stepped
      split at stepped
      · rename_i connected
        exact Option.some.inj stepped ▸ .disconnects connected
      · contradiction
  | loses =>
      simp only [step] at stepped
      split at stepped
      · rename_i code exited
        obtain rfl := Option.some.inj stepped
        exact move_lose exited
      all_goals contradiction
  | cancel message =>
      simp only [step] at stepped
      split at stepped
      · rename_i here
        exact Option.some.inj stepped ▸ .cancels message here
      · contradiction
  | resume =>
      simp only [step] at stepped
      split at stepped
      · rename_i here
        exact Option.some.inj stepped ▸ .returns here
      · rename_i inLoop here
        obtain rfl := Option.some.inj stepped
        exact move_interrupt here
      all_goals contradiction

-----------------------------------------------------------------------------------------
-- What holds of a call
-----------------------------------------------------------------------------------------

/-- Why a call of `Process.wait()` can end so: with the process as it is, and so many requests since
the call began.
-/
def Explains (proc : Proc) (requests : Nat) : Outcome Error Unit → Prop
  | .returned _ => proc.returncode = some 0 ∧ requests = 0
  | .raised .cancelledError => proc.returncode = some 0 ∧ 0 < requests
  | .raised (.exception (.processTerminatedException code)) =>
      proc.returncode = some code ∧ code ≠ 0
  | .raised (.exception .processLookupError) =>
      (∃ code, proc = .lost code) ∧ 0 < requests
  | .raised (.group _) | .raised .assertionError | .raised .invalidStateError => False

def Event.isCancel : Event → Bool
  | cancel _ => true
  | exits _ | disconnects _ | loses | resume => false

/-- The requests since the call began. -/
def requests (events : List Event) : Nat := events.countP Event.isCancel

/-- What happens to a process whose code is known, and to its pipes, explains no ending away. -/
theorem Explains.of_returncode {proc other : Proc} {requests : Nat} {outcome : Outcome Error Unit}
    (explained : Explains proc requests outcome)
    (known : ∀ code, proc.returncode = some code → other.returncode = some code)
    (stays : ∀ code, proc = .lost code → other = .lost code)
    : Explains other requests outcome := by
  cases outcome with
  | returned value => exact ⟨known 0 explained.1, explained.2⟩
  | raised error =>
      cases error with
      | cancelledError => exact ⟨known 0 explained.1, explained.2⟩
      | exception error =>
          cases error with
          | processTerminatedException code => exact ⟨known code explained.1, explained.2⟩
          | processLookupError =>
              obtain ⟨⟨code, lost⟩, asked⟩ := explained
              exact ⟨⟨code, stays code lost⟩, asked⟩
      | _ => exact explained.elim

/-- What holds of a call after so many requests: while it waits, each `CancelledError` that was
thrown sent one signal, its future has the code of the process if any, and it is told before the
transport is lost.
-/
structure Waits (firstSignal subsequentSignals : ς) (requests : Nat) (state : State ς)
    : Prop where
  counted : state.task.cancelling = state.initialCancellationCount + requests
  thrown : state.thrown ≤ requests
  signals
    : ∃ sent ≤ state.thrown,
        state.signals = signalsFor firstSignal subsequentSignals sent
        ∧ (state.proc.returncode = none → sent = state.thrown)
  waiting
    : ∀ inLoop waiter,
        state.place = .waiting inLoop waiter
        → state.signals = signalsFor firstSignal subsequentSignals state.thrown
          ∧ inLoop = decide (0 < state.thrown)
  asked : ∀ inLoop, state.place = .waiting inLoop .cancelled → state.thrown < requests
  told
    : ∀ inLoop code,
        state.place = .waiting inLoop (.success code) → state.proc.returncode = some code
  untold : ∀ inLoop code, state.place = .waiting inLoop .pending → state.proc ≠ .lost code
  ended : ∀ outcome, state.place = .ended outcome → Explains state.proc requests outcome

/-- What the call ends with is explained by the exit code and the requests. -/
theorem explains_conclude {state : State ς} {requests : Nat} {code : Int}
    (counted : state.task.cancelling = state.initialCancellationCount + requests)
    (exited : state.proc.returncode = some code)
    : ∃ outcome, (state.conclude code).place = .ended outcome
        ∧ Explains state.proc requests outcome := by
  refine ⟨_, rfl, ?_⟩
  by_cases failed : code = 0
  · subst failed
    by_cases asked : requests = 0
    · simp [counted, asked, Explains, exited]
    · simp [counted, Explains, exited, Nat.pos_of_ne_zero asked]
  · simp [failed, Explains, exited]

/-- A call that ends with the code of the process keeps its books. -/
theorem Waits.conclude {requests : Nat} {state : State ς} {code : Int}
    (counted : state.task.cancelling = state.initialCancellationCount + requests)
    (thrown : state.thrown ≤ requests)
    (signals
      : ∃ sent ≤ state.thrown,
          state.signals = signalsFor firstSignal subsequentSignals sent
          ∧ (state.proc.returncode = none → sent = state.thrown))
    (exited : state.proc.returncode = some code)
    : Waits firstSignal subsequentSignals requests (state.conclude code) := by
  obtain ⟨outcome, here, explained⟩ := explains_conclude counted exited
  refine ⟨counted, thrown, signals, ?_, ?_, ?_, ?_, ?_⟩
  · simp [here]
  · simp [here]
  · simp [here]
  · simp [here]
  · intro other same
    obtain rfl := Place.ended.inj (here.symm.trans same)
    exact explained

theorem Waits.initial (proc : Proc) (task : Task)
    : Waits firstSignal subsequentSignals 0 (State.initial proc task) := by
  have signals
      : ∃ sent ≤ 0, ([] : List ς) = signalsFor firstSignal subsequentSignals sent
          ∧ (proc.returncode = none → sent = 0) :=
    ⟨0, Nat.le_refl 0, rfl, fun _ => rfl⟩
  cases proc with
  | running pipes =>
      refine ⟨rfl, Nat.le_refl 0, signals, ?_, ?_, ?_, ?_, ?_⟩
      · rintro inLoop waiter same
        obtain ⟨rfl, -⟩ := Place.waiting.inj same
        exact ⟨rfl, rfl⟩
      · simp [State.initial, State.wait, Proc.returncode]
      · simp [State.initial, State.wait, Proc.returncode]
      · simp [State.initial, State.wait, Proc.returncode]
      · simp [State.initial, State.wait, Proc.returncode]
  | exited code pipes => exact .conclude rfl (Nat.le_refl 0) signals rfl
  | lost code => exact .conclude rfl (Nat.le_refl 0) signals rfl

/-- The process goes on, where its code stays the same once it is known. -/
theorem Waits.withProc {requests : Nat} {state : State ς} {proc : Proc}
    (waits : Waits firstSignal subsequentSignals requests state)
    (known : ∀ code, state.proc.returncode = some code → proc.returncode = some code)
    (stays : ∀ code, state.proc = .lost code → proc = .lost code)
    (untold : ∀ inLoop code, state.place = .waiting inLoop .pending → proc ≠ .lost code)
    : Waits firstSignal subsequentSignals requests { state with proc } := by
  obtain ⟨sent, few, signals, all⟩ := waits.signals
  refine ⟨waits.counted, waits.thrown, ⟨sent, few, signals, fun unknown => all ?_⟩,
    waits.waiting, waits.asked, fun inLoop code here => known code (waits.told inLoop code here),
    untold, fun outcome here => (waits.ended outcome here).of_returncode known stays⟩
  cases before : state.proc.returncode with
  | none => rfl
  | some code => simp [known code before] at unknown

/-- Each step keeps what holds of the call. -/
theorem Waits.step {requests : Nat} {state next : State ς} {event : Event}
    (waits : Waits firstSignal subsequentSignals requests state)
    (stepped : step firstSignal subsequentSignals state event = some next)
    : Waits firstSignal subsequentSignals (requests + Process.requests [event]) next := by
  cases move_of_step stepped with
  | exits code runs =>
      exact waits.withProc (by simp [runs, Proc.returncode]) (by simp [runs]) (by simp)
  | @disconnects pipe connected =>
      refine waits.withProc (by simp) (fun code lost => ?_) (fun inLoop code here lost => ?_)
      · simp [lost, Proc.disconnect]
      · exact waits.untold inLoop code here (Proc.eq_lost_of_disconnect lost)
  | tells exited here =>
      obtain ⟨sent, few, signals, all⟩ := waits.signals
      refine ⟨waits.counted, waits.thrown, ⟨sent, few, signals, by simp [Proc.returncode]⟩, ?_,
        by simp, ?_, by simp, by simp⟩
      · rintro inLoop waiter same
        obtain ⟨rfl, -⟩ := Place.waiting.inj same
        exact waits.waiting _ _ here
      · rintro inLoop code same
        obtain ⟨-, sameCode⟩ := Place.waiting.inj same
        obtain rfl := FutureState.success.inj sameCode
        rfl
  | loses exited awake =>
      exact waits.withProc (by simp [exited, Proc.returncode]) (by simp [exited])
        (fun inLoop _ here => absurd here (awake inLoop))
  | cancels message here =>
      have later := Nat.le_succ_of_le waits.thrown
      refine ⟨?_, later, waits.signals, ?_, ?_, by simp, by simp, by simp⟩
      · simp only [Task.cancel_cancelling, waits.counted, Nat.add_assoc]
        rfl
      · rintro inLoop waiter same
        obtain ⟨rfl, -⟩ := Place.waiting.inj same
        exact waits.waiting _ _ here
      · exact fun _ _ => Nat.lt_succ_of_le waits.thrown
  | returns here =>
      exact .conclude waits.counted waits.thrown waits.signals (waits.told _ _ here)
  | @signals inLoop _ here runs =>
      obtain ⟨signals, later⟩ := waits.waiting _ _ here
      have asked := waits.asked _ here
      have sent
          : state.signals ++ [if inLoop then subsequentSignals else firstSignal]
            = signalsFor firstSignal subsequentSignals (state.thrown + 1) := by
        rw [signalsFor_succ, signals, later]
        simp
      refine ⟨waits.counted, asked, ⟨state.thrown + 1, Nat.le_refl _, sent, fun _ => rfl⟩, ?_,
        by simp, by simp, by simp [runs], by simp⟩
      rintro inLoop waiter same
      obtain ⟨rfl, -⟩ := Place.waiting.inj same
      exact ⟨sent, by simp⟩
  | misses here exited =>
      have asked := waits.asked _ here
      refine .conclude waits.counted asked ?_ (by simp [exited, Proc.returncode])
      exact ⟨state.thrown, Nat.le_succ _, (waits.waiting _ _ here).1,
        by simp [exited, Proc.returncode]⟩
  | fails here lost =>
      have asked := waits.asked _ here
      refine ⟨waits.counted, asked, ?_, by simp, by simp, by simp, by simp, ?_⟩
      · exact ⟨state.thrown, Nat.le_succ _, (waits.waiting _ _ here).1,
          by simp [lost, Proc.returncode]⟩
      · rintro outcome same
        obtain rfl := Place.ended.inj same
        exact ⟨⟨_, lost⟩, by omega⟩

-----------------------------------------------------------------------------------------
-- Runs
-----------------------------------------------------------------------------------------

/-- What is left to do of a call once the process has exited. -/
def remaining (state : State ς) : Nat :=
  (match state.proc with
  | .running _ | .exited _ _ => 1
  | .lost _ => 0)
  + match state.place with
    | .waiting _ .pending => 2
    | .waiting _ (.success _) | .waiting _ .cancelled | .waiting _ (.exception _) => 1
    | .ended _ => 0

/-- The events that the loop brings about by itself. -/
def Event.isOwn : Event → Bool
  | loses | resume => true
  | exits _ | disconnects _ | cancel _ => false

/-- A call that nothing but the loop has to happen for: the process has exited, and where the
call is not woken yet, the pipes are disconnected.
-/
structure Ready (state : State ς) : Prop where
  exited : state.proc.returncode ≠ none
  woken : ∀ inLoop, state.place = .waiting inLoop .pending → ∃ code, state.proc = .exited code []

/-- Such a call ends when the loop is left to itself. -/
theorem Ready.terminates {state : State ς} (ready : Ready state)
    : Transition.Terminates (Process.step firstSignal subsequentSignals)
        (fun event => event.isOwn = true) (fun state => ∃ outcome, state.place = .ended outcome)
        state := by
  refine Transition.terminates_of_measure (P := Ready) remaining ?_ ?_ ?_ ready
  · rintro state event next ready own stepped
    cases move_of_step stepped with
    | exits _ _ => cases own
    | disconnects _ => cases own
    | cancels _ _ => cases own
    | tells _ _ => exact ⟨by simp [Proc.returncode], by simp⟩
    | loses _ awake =>
        exact ⟨by simp [Proc.returncode], fun inLoop here => absurd here (awake inLoop)⟩
    | returns _ => exact ⟨ready.exited, by simp [State.conclude]⟩
    | signals _ runs => exact absurd (congrArg Proc.returncode runs) ready.exited
    | misses _ _ => exact ⟨ready.exited, by simp [State.conclude]⟩
    | fails _ _ => exact ⟨ready.exited, by simp⟩
  · rintro state event next ready own stepped
    cases move_of_step stepped with
    | exits _ _ => cases own
    | disconnects _ => cases own
    | cancels _ _ => cases own
    | tells exited here => simp [remaining, exited, here]
    | loses exited _ => simp [remaining, exited]
    | returns here => simp [remaining, here, State.conclude]
    | signals _ runs => exact absurd (congrArg Proc.returncode runs) ready.exited
    | misses here _ => simp [remaining, here, State.conclude]
    | fails here _ => simp [remaining, here]
  · rintro state ready
    cases here : state.place with
    | ended outcome => exact .inl ⟨outcome, rfl⟩
    | waiting inLoop waiter =>
        right
        cases waiter with
        | pending =>
            obtain ⟨code, exited⟩ := ready.woken inLoop here
            exact ⟨.loses, rfl, by simp [step, exited]⟩
        | success code => exact ⟨.resume, rfl, by simp [step, here]⟩
        | cancelled => exact ⟨.resume, rfl, by simp [step, here]⟩
        | exception error => exact error.elim

end Aiodrive.Process
