import Aiodrive.ThreadsafeState.Model

/-! `wait()` of `ThreadsafeState` in `modules/thread_safe_state.py`, next to the other clients of
the state. It asks for the running event loop in order to refuse to block it, and raises where
there is none.
-/

namespace Aiodrive.StateWait

variable {κ T : Type*}

structure RuntimeError where
  message : String
deriving DecidableEq, Repr

/-- `asyncio.get_running_loop()`, which returns a loop or raises. -/
def getRunningLoop : Option Nat → Except RuntimeError (Option Nat)
  | some loop => .ok (some loop)
  | none => .error ⟨"no running event loop"⟩

/-- The check at the entry of `wait()`. -/
def checkLoop (running : Option Nat) : Except RuntimeError Unit :=
  match getRunningLoop running with
  | .error error => .error error
  | .ok loop =>
      if loop.isSome then .error ⟨"Cannot call sync wait() from a running event loop"⟩
      else .ok ()

/-- Where a client is in `wait()`: before the check, on a thread with a running loop or without one;
before `old_value` is read; before a comparison of the `while`; before its `with`; in
`self._condition.wait()`, notified or not; before the value is read that it returns; or at its
end.
-/
inductive Wait (T : Type*) where
  | outside
  | entering (running : Option Nat)
  | reading
  | comparing (old : T)
  | locking (old : T)
  | waiting (old : T) (notified : Bool)
  | leaving (old : T)
  | returned (old value : T)
  | raised (error : RuntimeError)
deriving DecidableEq, Repr

/-- The call has not ended. -/
def Wait.inCall : Wait T → Bool
  | entering _ | reading | comparing _ | locking _ | waiting _ _ | leaving _ => true
  | outside | returned _ _ | raised _ => false

/-- `self._condition.notify_all()`, for one client. -/
def Wait.notify : Wait T → Wait T
  | waiting old _ => waiting old true
  | outside => outside
  | entering running => entering running
  | reading => reading
  | comparing old => comparing old
  | locking old => locking old
  | leaving old => leaving old
  | returned old value => returned old value
  | raised error => raised error

/-- The state with its other clients, and the clients in `wait()`. -/
structure State (κ T : Type*) where
  shared : ThreadsafeState.State κ T
  waits : κ → Wait T

def State.initial (value : T) : State κ T :=
  { shared := .initial value, waits := fun _ => .outside }

/-- What can happen: a step of the state, with the calls of `update_value()`; a client calls
`wait()`, or goes on in it up to the next access to what is shared.
-/
inductive Event (κ T : Type*) where
  | other (event : ThreadsafeState.Event κ T)
  | wait (client : κ) (running : Option Nat)
  | advance (client : κ)

/-- The event changes the value, and calls `notify_all()`. -/
def notifies (differs : T → T → Bool) (value : T) : ThreadsafeState.Event κ T → Bool
  | .setValue newValue => differs value newValue
  | .updateValue fn => differs value (fn value)
  | .waitUntil _ _ _ | .waitUntilSync _ _ | .check _ | .resume _ | .setResult _ | .closeLoop _
  | .cancel _ => false

/-- `wait()` from a place up to the next one, where `equal` is the `==` of the values. Between the
comparison and the `with`, as between the last comparison and the `return`, it has no lock.
-/
def Wait.advance (equal : T → T → Bool) (value : T) : Wait T → Option (Wait T)
  | entering running =>
      match checkLoop running with
      | .error error => some (raised error)
      | .ok () => some reading
  | reading => some (comparing value)
  | comparing old => some (if equal value old then locking old else leaving old)
  | locking old => some (waiting old false)
  | waiting old notified => if notified then some (comparing old) else none
  | leaving old => some (returned old value)
  | outside | returned _ _ | raised _ => none

variable [DecidableEq κ]

def State.setWait (state : State κ T) (client : κ) (wait : Wait T) : State κ T :=
  { state with waits := Function.update state.waits client wait }

@[simp] theorem State.waits_setWait (state : State κ T) (client other : κ) (wait : Wait T)
    : (state.setWait client wait).waits other
      = if other = client then wait else state.waits other :=
  Function.update_apply ..

def step (differs equal : T → T → Bool) (state : State κ T) : Event κ T → Option (State κ T)
  | .other event =>
      (ThreadsafeState.step differs state.shared event).map (fun shared =>
        { shared
          waits := fun client =>
            if notifies differs state.shared.value event then (state.waits client).notify
            else state.waits client })
  | .wait client running =>
      if (state.waits client).inCall then none
      else some (state.setWait client (.entering running))
  | .advance client =>
      ((state.waits client).advance equal state.shared.value).map (state.setWait client)

/-- A client in `wait()` is not blocked in vain, did not get an exception, and did not get a value
equal to the one it found.
-/
def SeesEveryChange (equal : T → T → Bool) (state : State κ T) (client : κ) : Prop :=
  match state.waits client with
  | .waiting old notified => notified = true ∨ equal state.shared.value old = true
  | .returned old value => equal value old = false
  | .raised _ => False
  | .outside | .entering _ | .reading | .comparing _ | .locking _ | .leaving _ => True

-----------------------------------------------------------------------------------------
-- A call never gets past the check
-----------------------------------------------------------------------------------------

variable {differs equal : T → T → Bool} {state next final : State κ T} {client : κ}
  {event : Event κ T}

/-- The client is in no call, at the check of one, or at the end of one that raised. -/
def Wait.Unpassed : Wait T → Prop
  | outside | entering _ | raised _ => True
  | reading | comparing _ | locking _ | waiting _ _ | leaving _ | returned _ _ => False

/-- A thread with a running loop fails the check, and one without a loop fails to make it. -/
theorem Wait.Unpassed.advance {value : T} {wait next : Wait T} (unpassed : wait.Unpassed)
    (advanced : wait.advance equal value = some next)
    : next.Unpassed := by
  cases wait with
  | entering running =>
      cases running <;> exact Option.some.inj advanced ▸ trivial
  | outside | raised _ => contradiction
  | reading | comparing _ | locking _ | waiting _ _ | leaving _ | returned _ _ =>
      exact unpassed.elim

/-- In every run, no call of `wait()` gets past the check: it neither blocks nor returns. -/
theorem waits_unpassed {value : T} {events : List (Event κ T)}
    (reached : Transition.run (step differs equal) (.initial value) events = some final)
    (client : κ)
    : (final.waits client).Unpassed := by
  refine Transition.run_preserves (P := fun state => (state.waits client).Unpassed) ?_ trivial
    reached
  intro state event next unpassed stepped
  cases event with
  | other event =>
      obtain ⟨shared, _, rfl⟩ := Option.map_eq_some_iff.mp stepped
      simp only
      split
      · cases place : state.waits client <;> simp_all [Wait.Unpassed, Wait.notify]
      · exact unpassed
  | wait other running =>
      simp only [step, Option.ite_none_left_eq_some] at stepped
      obtain ⟨_, same⟩ := stepped
      obtain rfl := Option.some.inj same
      rw [State.waits_setWait]
      split
      · trivial
      · exact unpassed
  | advance other =>
      obtain ⟨wait, advanced, rfl⟩ := Option.map_eq_some_iff.mp stepped
      rw [State.waits_setWait]
      split
      · rename_i same
        exact (same ▸ unpassed).advance advanced
      · exact unpassed

/-- What a step does to a client that is at the check, or has raised. -/
theorem waits_step {running : Option Nat} {error : RuntimeError}
    (fails : checkLoop running = .error error)
    (uncalled : ∀ running, event ≠ .wait client running)
    (stepped : step differs equal state event = some next)
    (atCheck : state.waits client = .entering running ∨ state.waits client = .raised error)
    : next.waits client = .raised error
      ∨ event ≠ .advance client ∧ next.waits client = state.waits client := by
  cases event with
  | other event =>
      obtain ⟨shared, _, rfl⟩ := Option.map_eq_some_iff.mp stepped
      refine .inr ⟨by simp, ?_⟩
      simp only
      split
      · rcases atCheck with here | here <;> simp [here, Wait.notify]
      · rfl
  | wait other running =>
      have different : client ≠ other := fun same => uncalled running (same ▸ rfl)
      simp only [step, Option.ite_none_left_eq_some] at stepped
      obtain ⟨_, same⟩ := stepped
      obtain rfl := Option.some.inj same
      exact .inr ⟨by simp, by simp [different]⟩
  | advance other =>
      obtain ⟨wait, advanced, rfl⟩ := Option.map_eq_some_iff.mp stepped
      by_cases same : client = other
      · subst same
        rcases atCheck with here | here
        · simp only [here, Wait.advance, fails, Option.some.injEq] at advanced
          exact .inl (by simp [advanced])
        · simp [here, Wait.advance] at advanced
      · exact .inr ⟨by simpa [eq_comm] using same, by simp [same]⟩

/-- A call that goes on raises, whatever the other clients do before and after, by induction on the
schedule.
-/
theorem waits_run {events : List (Event κ T)} {running : Option Nat} {error : RuntimeError}
    (fails : checkLoop running = .error error)
    (uncalled : ∀ running, .wait client running ∉ events)
    (reached : Transition.run (step differs equal) state events = some final)
    (atCheck : state.waits client = .entering running ∨ state.waits client = .raised error)
    : final.waits client = .raised error
      ∨ .advance client ∉ events ∧ final.waits client = state.waits client := by
  induction events generalizing state with
  | nil => exact .inr ⟨List.not_mem_nil, Option.some.inj reached ▸ rfl⟩
  | cons event rest ih =>
      obtain ⟨next, stepped, tail⟩ := Transition.run_cons_iff.mp reached
      simp only [List.mem_cons, not_or] at uncalled
      have later := ih (fun running => (uncalled running).2) tail
      rcases waits_step fails (fun running => Ne.symm (uncalled running).1) stepped atCheck
        with raised | ⟨other, same⟩
      · exact .inl ((later (.inr raised)).elim id (fun kept => kept.2.trans raised))
      · refine (later (same ▸ atCheck)).imp_right (fun kept => ⟨?_, kept.2.trans same⟩)
        simpa [other.symm] using kept.1

/-- No call of `wait()` outside a running loop does what it should: in every run that starts with
the call and in which it goes on, whatever the other clients do meanwhile, it has raised the
`RuntimeError` of `get_running_loop()`.
-/
theorem wait_raises {later : List (Event κ T)}
    (reached
      : Transition.run (step differs equal) state (.wait client none :: later) = some final)
    (uncalled : ∀ running, .wait client running ∉ later) (goesOn : .advance client ∈ later)
    : final.waits client = .raised ⟨"no running event loop"⟩
      ∧ ¬SeesEveryChange equal final client := by
  obtain ⟨next, stepped, tail⟩ := Transition.run_cons_iff.mp reached
  simp only [step, Option.ite_none_left_eq_some] at stepped
  obtain ⟨_, same⟩ := stepped
  obtain rfl := Option.some.inj same
  have fails : checkLoop none = .error ⟨"no running event loop"⟩ := rfl
  have raised := (waits_run fails uncalled tail (.inl (by simp))).resolve_right
    (fun kept => kept.1 goesOn)
  exact ⟨raised, by simp [SeesEveryChange, raised]⟩

/-- A thread calls `wait()`, and another one changes the value. -/
theorem wait_raises_beforeUpdate
    : ∃ final : State Nat Nat,
        Transition.run (step (· != ·) (· == ·)) (.initial 3)
            [.wait 0 none, .advance 0, .other (.setValue 4)]
          = some final
        ∧ final.shared.value = 4
        ∧ final.waits 0 = .raised ⟨"no running event loop"⟩
        ∧ ¬SeesEveryChange (· == ·) final 0 := by
  have reached
      : Transition.run (step (· != ·) (· == ·)) (.initial 3 : State Nat Nat)
          [.wait 0 none, .advance 0, .other (.setValue 4)]
        = some _ :=
    rfl
  exact ⟨_, reached, rfl, wait_raises reached (by simp) (by simp)⟩

/-- A call of `wait()` outside a running loop raises at its first step. -/
theorem wait_fails_outside_loop
    : ∃ final : State Nat Nat,
        Transition.run (step (· != ·) (· == ·)) (.initial 3) [.wait 0 none, .advance 0]
          = some final
        ∧ ¬SeesEveryChange (· == ·) final 0 :=
  ⟨_, rfl, id⟩

end Aiodrive.StateWait
