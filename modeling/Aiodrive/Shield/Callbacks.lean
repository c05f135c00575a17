import Aiodrive.Asyncio.DoneCallbacks
import Aiodrive.Transition.Runs

/-! `shield()` of `modules/shield.py` with the callbacks that its two futures have on each other.
The loop runs each of them some time after the event that scheduled it, and the removal of one that
is scheduled comes too late.
-/

namespace Aiodrive.ShieldCallbacks

variable {ε α : Type*}

/-- The two callbacks of `shield()`, and any others that code adds to the futures. -/
inductive Callback where
  | innerCallback
  | outerCallback
  | other (id : Nat)
deriving DecidableEq, Repr

/-- The future that is shielded; the `outer` one, unless `shield()` returned the inner one; the
callbacks that the loop has to run; and whether an `assert` or a read of a result failed.
-/
structure State (ε α : Type*) where
  inner : CallbackFuture Callback ε α
  outer : Option (CallbackFuture Callback ε α)
  scheduled : List Callback
  failed : Bool

/-- `ensure_future(awaitable)`, with the callbacks that others added to it. -/
def awaited (inner : FutureState ε α) (others : List Nat) : CallbackFuture Callback ε α where
  state := inner
  callbacks := if inner.done then [] else others.map .other
  cleared := fun done => if_pos done

/-- `shield()` -/
def shield (inner : CallbackFuture Callback ε α) : State ε α :=
  if inner.state.done then { inner, outer := none, scheduled := [], failed := false }
  else
    let (inner, first) := inner.addDoneCallback .innerCallback
    let (outer, second) := CallbackFuture.new.addDoneCallback .outerCallback
    { inner, outer := some outer, scheduled := first ++ second, failed := false }

/-- The state of the future that `shield()` returned. -/
def State.returned (state : State ε α) : FutureState ε α :=
  match state.outer with
  | none => state.inner.state
  | some outer => outer.state

/-- The inner future is changed by an operation that schedules callbacks. -/
def State.setInner (state : State ε α) (next : CallbackFuture Callback ε α × List Callback)
    : State ε α :=
  { state with inner := next.1, scheduled := state.scheduled ++ next.2 }

/-- The outer future is changed by an operation that schedules callbacks. -/
def State.setOuter (state : State ε α) (next : CallbackFuture Callback ε α × List Callback)
    : State ε α :=
  { state with outer := some next.1, scheduled := state.scheduled ++ next.2 }

/-- An operation on the future that `shield()` returned. -/
def State.onReturned (state : State ε α)
    (operation
      : CallbackFuture Callback ε α → CallbackFuture Callback ε α × List Callback)
    : State ε α :=
  match state.outer with
  | none => state.setInner (operation state.inner)
  | some outer => state.setOuter (operation outer)

/-- `inner_callback()` -/
def State.innerCallback (state : State ε α) : State ε α :=
  match state.outer with
  | none => state
  | some outer =>
      if outer.state.isCancelled then state
      else
        match state.inner.state.absorbFuture.bind outer.transfer with
        | none => { state with failed := true }
        | some next => state.setOuter next

/-- `outer_callback()` -/
def State.outerCallback (state : State ε α) : State ε α :=
  { state with inner := state.inner.removeDoneCallback .innerCallback }

/-- The loop takes a callback out of its queue. -/
def State.dequeue (state : State ε α) (callback : Callback) : State ε α :=
  { state with scheduled := state.scheduled.erase callback }

/-- The loop runs a callback; what the others do are events of their own. -/
def State.call (state : State ε α) : Callback → State ε α
  | .innerCallback => state.innerCallback
  | .outerCallback => state.outerCallback
  | .other _ => state

/-- What can happen: the inner future becomes done; the returned one is asked to cancel; a callback
is added to either; and the loop runs a callback.
-/
inductive Event (ε α : Type*) where
  | innerEnds (ended : FutureState ε α)
  | cancel
  | addToInner (id : Nat)
  | addToReturned (id : Nat)
  | runs (callback : Callback)

def step (state : State ε α) : Event ε α → Option (State ε α)
  | .innerEnds ended =>
      if state.inner.state.done = false ∧ ended.done = true then
        some (state.setInner (state.inner.finish ended))
      else none
  | .cancel => some (state.onReturned CallbackFuture.cancel)
  | .addToInner id => some (state.setInner (state.inner.addDoneCallback (.other id)))
  | .addToReturned id => some (state.onReturned (·.addDoneCallback (.other id)))
  | .runs callback =>
      if callback ∈ state.scheduled then
        some ((state.dequeue callback).call callback)
      else none

/-- The event cancels the returned future, which is pending. -/
def CancelsPending (state : State ε α) (event : Event ε α) : Prop :=
  event = .cancel ∧ state.returned = .pending

/-- The returned future was cancelled first: a `cancel()` of the run found it pending. -/
def CancelledFirst : State ε α → List (Event ε α) → Prop := Transition.Took step CancelsPending

/-- What its own completion makes of the inner future. -/
def completed (start : FutureState ε α) (events : List (Event ε α)) : FutureState ε α :=
  events.foldl
    (fun state event =>
      match event with
      | .innerEnds ended => ended
      | .cancel | .addToInner _ | .addToReturned _ | .runs _ => state)
    start

theorem completed_append (start : FutureState ε α) (past later : List (Event ε α))
    : completed start (past ++ later) = completed (completed start past) later :=
  List.foldl_append

-----------------------------------------------------------------------------------------
-- Where a shield is
-----------------------------------------------------------------------------------------

/-- The outer future is pending: `inner_callback` is registered, or it is scheduled as the inner
future is done; and nothing is about to remove it.
-/
structure Undecided (state : State ε α) (outer : CallbackFuture Callback ε α) : Prop where
  here : state.outer = some outer
  pending : outer.state = .pending
  once : state.inner.callbacks.count .innerCallback + state.scheduled.count .innerCallback = 1
  registered : state.inner.state.done = false → .innerCallback ∉ state.scheduled
  kept : .outerCallback ∉ state.inner.callbacks ∧ .outerCallback ∉ state.scheduled
  own : .innerCallback ∉ outer.callbacks

/-- A shield returned a future that was done, is undecided, was cancelled before the callback ran,
or took the state of the inner future.
-/
inductive Phase (first : Prop) (state : State ε α) : Prop where
  | same (here : state.outer = none) (done : state.inner.state.done = true) (other : ¬first)
  | undecided (outer : CallbackFuture Callback ε α) (undecided : Undecided state outer)
    (other : ¬first)
  | cancelled (outer : CallbackFuture Callback ε α) (here : state.outer = some outer)
    (cancelled : outer.state = .cancelled) (first : first)
  | mirrored (outer : CallbackFuture Callback ε α) (here : state.outer = some outer)
    (done : state.inner.state.done = true) (mirrors : outer.state = state.inner.state)
    (called : .innerCallback ∉ state.scheduled) (other : ¬first)

/-- A shield that has just been called. -/
theorem phase_shield (inner : FutureState ε α) (others : List Nat)
    : Phase False (shield (awaited inner others))
      ∧ (shield (awaited inner others)).failed = false := by
  cases done : inner.done with
  | true =>
      have here : shield (awaited inner others) = _ := if_pos done
      rw [here]
      exact ⟨.same rfl done id, rfl⟩
  | false =>
      have undone : ¬(awaited inner others).state.done = true := by simp [awaited, done]
      have here : shield (awaited inner others) = _ := if_neg undone
      rw [here]
      refine ⟨.undecided _ ⟨rfl, ?_, ?_, ?_, ?_, ?_⟩ id, rfl⟩
      all_goals
        simp [CallbackFuture.addDoneCallback, CallbackFuture.new, awaited, done, List.count_eq_zero]

-----------------------------------------------------------------------------------------
-- One step
-----------------------------------------------------------------------------------------

variable {state next : State ε α} {event : Event ε α} {first : Prop}
  {outer : CallbackFuture Callback ε α}

/-- The branches of a step; of the callbacks, the two of `shield()` change it. -/
inductive Move (state : State ε α) : Event ε α → State ε α → Prop where
  | ends {ended : FutureState ε α} (pending : state.inner.state.done = false)
    (done : ended.done = true)
    : Move state (.innerEnds ended) (state.setInner (state.inner.finish ended))
  | cancels : Move state .cancel (state.onReturned CallbackFuture.cancel)
  | addsToInner {id : Nat}
    : Move state (.addToInner id) (state.setInner (state.inner.addDoneCallback (.other id)))
  | addsToReturned {id : Nat}
    : Move state (.addToReturned id) (state.onReturned (·.addDoneCallback (.other id)))
  | runs {callback : Callback} (scheduled : callback ∈ state.scheduled)
    : Move state (.runs callback) ((state.dequeue callback).call callback)

/-- Every step is one of the moves. -/
theorem move_of_step (stepped : step state event = some next) : Move state event next := by
  cases event with
  | innerEnds ended =>
      obtain ⟨⟨pending, done⟩, same⟩ := Option.ite_none_right_eq_some.mp stepped
      exact Option.some.inj same ▸ .ends pending done
  | cancel => exact Option.some.inj stepped ▸ .cancels
  | addToInner id => exact Option.some.inj stepped ▸ .addsToInner
  | addToReturned id => exact Option.some.inj stepped ▸ .addsToReturned
  | runs callback =>
      obtain ⟨scheduled, same⟩ := Option.ite_none_right_eq_some.mp stepped
      exact Option.some.inj same ▸ .runs scheduled

theorem onReturned_of_none (here : state.outer = none)
    (operation : CallbackFuture Callback ε α → CallbackFuture Callback ε α × List Callback)
    : state.onReturned operation = state.setInner (operation state.inner) := by
  simp only [State.onReturned, here]

theorem onReturned_of_some (here : state.outer = some outer)
    (operation : CallbackFuture Callback ε α → CallbackFuture Callback ε α × List Callback)
    : state.onReturned operation = state.setOuter (operation outer) := by
  simp only [State.onReturned, here]

/-- The callback finds nothing to do where the outer future was cancelled, or is missing. -/
theorem innerCallback_of_cancelled (cancelled : ∀ outer ∈ state.outer, outer.state = .cancelled)
    : state.innerCallback = state := by
  unfold State.innerCallback
  cases here : state.outer with
  | none => rfl
  | some outer => simp [cancelled outer (by simp [here]), FutureState.isCancelled]

/-- The callback transfers the state of an inner future that is done to a pending outer one. -/
theorem innerCallback_of_pending (here : state.outer = some outer)
    (pending : outer.state = .pending) (done : state.inner.state.done = true)
    : state.innerCallback = state.setOuter (outer.finish state.inner.state) := by
  simp [State.innerCallback, here, pending, FutureState.isCancelled,
    CallbackFuture.transfer_of_pending done pending]

/-- A shield that returned its inner future remains so. -/
theorem same_step (here : state.outer = none) (done : state.inner.state.done = true)
    (move : Move state event next)
    : next.outer = none ∧ next.inner.state = state.inner.state ∧ next.failed = state.failed := by
  cases move with
  | ends pending => simp [done] at pending
  | cancels =>
      rw [onReturned_of_none here, CallbackFuture.cancel_of_done done]
      exact ⟨here, rfl, rfl⟩
  | addsToInner => exact ⟨here, CallbackFuture.state_addDoneCallback .., rfl⟩
  | addsToReturned =>
      rw [onReturned_of_none here]
      exact ⟨here, CallbackFuture.state_addDoneCallback .., rfl⟩
  | @runs callback =>
      cases callback with
      | innerCallback =>
          have called : (state.dequeue .innerCallback).call .innerCallback = _ :=
            innerCallback_of_cancelled (by simp [State.dequeue, here])
          rw [called]
          exact ⟨here, rfl, rfl⟩
      | outerCallback | other id => exact ⟨here, rfl, rfl⟩

/-- A returned future that was cancelled remains so. -/
theorem cancelled_step (here : state.outer = some outer) (cancelled : outer.state = .cancelled)
    (move : Move state event next)
    : (∃ after, next.outer = some after ∧ after.state = .cancelled)
      ∧ next.failed = state.failed := by
  cases move with
  | ends | addsToInner => exact ⟨⟨outer, here, cancelled⟩, rfl⟩
  | cancels =>
      rw [onReturned_of_some here, CallbackFuture.cancel_of_done (by simp [cancelled])]
      exact ⟨⟨outer, rfl, cancelled⟩, rfl⟩
  | addsToReturned =>
      rw [onReturned_of_some here]
      exact ⟨⟨_, rfl, (CallbackFuture.state_addDoneCallback ..).trans cancelled⟩, rfl⟩
  | @runs callback =>
      cases callback with
      | innerCallback =>
          have called : (state.dequeue .innerCallback).call .innerCallback = _ :=
            innerCallback_of_cancelled (by simp [State.dequeue, here, cancelled])
          rw [called]
          exact ⟨⟨outer, here, cancelled⟩, rfl⟩
      | outerCallback | other id => exact ⟨⟨outer, here, cancelled⟩, rfl⟩

/-- A returned future that mirrors the inner one remains so. -/
theorem mirrored_step (here : state.outer = some outer) (done : state.inner.state.done = true)
    (mirrors : outer.state = state.inner.state) (called : .innerCallback ∉ state.scheduled)
    (move : Move state event next)
    : (∃ after, next.outer = some after ∧ after.state = next.inner.state)
      ∧ next.inner.state = state.inner.state
      ∧ .innerCallback ∉ next.scheduled
      ∧ next.failed = state.failed := by
  cases move with
  | ends pending => simp [done] at pending
  | cancels =>
      rw [onReturned_of_some here, CallbackFuture.cancel_of_done (mirrors ▸ done)]
      exact ⟨⟨outer, rfl, mirrors⟩, rfl, by simpa [State.setOuter] using called, rfl⟩
  | addsToInner =>
      rw [CallbackFuture.addDoneCallback_of_done done]
      exact ⟨⟨outer, here, mirrors⟩, rfl, by simpa [State.setInner] using called, rfl⟩
  | addsToReturned =>
      rw [onReturned_of_some here, CallbackFuture.addDoneCallback_of_done (mirrors ▸ done)]
      exact ⟨⟨outer, rfl, mirrors⟩, rfl, by simpa [State.setOuter] using called, rfl⟩
  | @runs callback scheduled =>
      have kept : .innerCallback ∉ state.scheduled.erase callback := mt List.mem_of_mem_erase called
      cases callback with
      | innerCallback => exact absurd scheduled called
      | outerCallback | other id => exact ⟨⟨outer, here, mirrors⟩, rfl, kept, rfl⟩

/-- The end of the inner future schedules the callback. -/
theorem Undecided.ends (undecided : Undecided state outer) {ended : FutureState ε α}
    (done : ended.done = true)
    : Undecided (state.setInner (state.inner.finish ended)) outer where
  here := undecided.here
  pending := undecided.pending
  once := by
    simpa [State.setInner, CallbackFuture.finish, Nat.add_comm] using undecided.once
  registered := fun pending => absurd (done.symm.trans pending) (by simp)
  kept := by
    simpa [State.setInner, CallbackFuture.finish, and_comm] using undecided.kept
  own := undecided.own

theorem Undecided.addToInner (undecided : Undecided state outer) (id : Nat)
    : Undecided (state.setInner (state.inner.addDoneCallback (.other id))) outer := by
  cases done : state.inner.state.done with
  | true =>
      rw [CallbackFuture.addDoneCallback_of_done done]
      refine ⟨undecided.here, undecided.pending, ?_, ?_, ?_, undecided.own⟩
      · simpa [State.setInner] using undecided.once
      · exact fun pending => absurd (done.symm.trans pending) (by simp)
      · simpa [State.setInner] using undecided.kept
  | false =>
      obtain ⟨callbacks, none⟩ := CallbackFuture.addDoneCallback_of_pending
        (FutureState.done_eq_false_iff.mp done) (Callback.other id)
      refine ⟨undecided.here, undecided.pending, ?_, ?_, ?_, undecided.own⟩
      · simpa [State.setInner, callbacks, none] using undecided.once
      · simpa [State.setInner, none, done] using undecided.registered
      · simpa [State.setInner, callbacks, none] using undecided.kept

theorem Undecided.addToReturned (undecided : Undecided state outer) (id : Nat)
    : ∃ after, Undecided (state.onReturned (·.addDoneCallback (.other id))) after := by
  obtain ⟨callbacks, none⟩ :=
    CallbackFuture.addDoneCallback_of_pending undecided.pending (Callback.other id)
  rw [onReturned_of_some undecided.here]
  refine ⟨_, rfl, (CallbackFuture.state_addDoneCallback ..).trans undecided.pending, ?_, ?_, ?_, ?_⟩
  · simpa [State.setOuter, none] using undecided.once
  · simpa [State.setOuter, none] using undecided.registered
  · simpa [State.setOuter, none] using undecided.kept
  · simpa [callbacks] using undecided.own

/-- The loop runs a callback of others. -/
theorem Undecided.runsOther (undecided : Undecided state outer) (id : Nat)
    : Undecided (state.dequeue (.other id)) outer where
  here := undecided.here
  pending := undecided.pending
  once := by
    rw [State.dequeue, List.count_erase_of_ne (by simp)]
    exact undecided.once
  registered := fun pending => mt List.mem_of_mem_erase (undecided.registered pending)
  kept := ⟨undecided.kept.1, mt List.mem_of_mem_erase undecided.kept.2⟩
  own := undecided.own

/-- A callback that is scheduled runs once, on an inner future that is done. -/
theorem Undecided.runs_innerCallback (undecided : Undecided state outer)
    (scheduled : .innerCallback ∈ state.scheduled)
    : state.inner.state.done = true
      ∧ .innerCallback ∉ state.scheduled.erase .innerCallback
      ∧ (state.dequeue .innerCallback).call .innerCallback
        = (state.dequeue .innerCallback).setOuter (outer.finish state.inner.state) := by
  have done : state.inner.state.done = true := by
    by_contra pending
    exact undecided.registered (by simpa using pending) scheduled
  refine ⟨done, ?_, innerCallback_of_pending undecided.here undecided.pending done⟩
  have once := undecided.once
  have counted := List.one_le_count_iff.mpr scheduled
  rw [← List.count_eq_zero, List.count_erase_self]
  omega

/-- A shield that is undecided remains so until it is cancelled or `inner_callback` runs. -/
theorem Undecided.step (undecided : Undecided state outer) (other : ¬first)
    (move : Move state event next)
    : Phase (first ∨ CancelsPending state event) next ∧ next.failed = state.failed := by
  have goesOn {event : Event ε α} (quiet : event ≠ .cancel)
      : ¬(first ∨ CancelsPending state event) := by
    simp [other, CancelsPending, quiet]
  cases move with
  | ends pending done => exact ⟨.undecided outer (undecided.ends done) (goesOn (by simp)), rfl⟩
  | cancels =>
      rw [onReturned_of_some undecided.here, CallbackFuture.cancel_of_pending undecided.pending]
      have returned : state.returned = .pending := by
        simp only [State.returned, undecided.here, undecided.pending]
      exact ⟨.cancelled _ rfl rfl (.inr ⟨rfl, returned⟩), rfl⟩
  | @addsToInner id =>
      exact ⟨.undecided outer (undecided.addToInner id) (goesOn (by simp)), rfl⟩
  | @addsToReturned id =>
      obtain ⟨after, still⟩ := undecided.addToReturned id
      refine ⟨.undecided after still (goesOn (by simp)), ?_⟩
      rw [onReturned_of_some undecided.here]
      rfl
  | @runs callback scheduled =>
      cases callback with
      | innerCallback =>
          obtain ⟨done, gone, called⟩ := undecided.runs_innerCallback scheduled
          have unscheduled : .innerCallback ∉ state.scheduled.erase .innerCallback
              ++ outer.callbacks := by
            simp [gone, undecided.own]
          rw [called]
          exact ⟨.mirrored _ rfl done rfl unscheduled (goesOn (by simp)), rfl⟩
      -- `outer_callback` is scheduled by the end of the outer future only
      | outerCallback => exact absurd scheduled undecided.kept.2
      | other id => exact ⟨.undecided outer (undecided.runsOther id) (goesOn (by simp)), rfl⟩

/-- A returned future that is done is not pending for a cancellation. -/
theorem not_cancelsPending (done : state.returned.done = true) : ¬CancelsPending state event := by
  rintro ⟨-, pending⟩
  simp [pending] at done

/-- Each step leads from phase to phase, and fails nowhere. -/
theorem Phase.step (phase : Phase first state) (move : Move state event next)
    : Phase (first ∨ CancelsPending state event) next ∧ next.failed = state.failed := by
  cases phase with
  | same here done other =>
      obtain ⟨stays, inner, failed⟩ := same_step here done move
      have returned : ¬CancelsPending state event :=
        not_cancelsPending (by simpa only [State.returned, here] using done)
      exact ⟨.same stays (inner ▸ done) (by simp [other, returned]), failed⟩
  | undecided outer undecided other => exact undecided.step other move
  | cancelled outer here cancelled first =>
      obtain ⟨⟨after, stays, cancelled⟩, failed⟩ := cancelled_step here cancelled move
      exact ⟨.cancelled after stays cancelled (.inl first), failed⟩
  | mirrored outer here done mirrors called other =>
      obtain ⟨⟨after, stays, mirrors'⟩, inner, called', failed⟩ :=
        mirrored_step here done mirrors called move
      have returned : ¬CancelsPending state event :=
        not_cancelsPending (by simpa only [State.returned, here, mirrors] using done)
      exact ⟨.mirrored after stays (inner ▸ done) mirrors' called' (by simp [other, returned]),
        failed⟩

@[simp] theorem inner_innerCallback (state : State ε α)
    : state.innerCallback.inner = state.inner := by
  unfold State.innerCallback
  repeat' split
  all_goals rfl

/-- Only its own completion changes the state of the inner future. -/
theorem Phase.inner_step (phase : Phase first state) (move : Move state event next)
    : next.inner.state = completed state.inner.state [event] := by
  cases move with
  | ends => rfl
  | addsToInner => exact CallbackFuture.state_addDoneCallback ..
  | cancels =>
      cases phase with
      | same here done =>
          rw [onReturned_of_none here, CallbackFuture.cancel_of_done done]
          rfl
      | undecided outer undecided => exact onReturned_of_some undecided.here _ ▸ rfl
      | cancelled outer here | mirrored outer here => exact onReturned_of_some here _ ▸ rfl
  | addsToReturned =>
      cases here : state.outer with
      | none =>
          rw [onReturned_of_none here]
          exact CallbackFuture.state_addDoneCallback ..
      | some outer => exact onReturned_of_some here _ ▸ rfl
  | @runs callback =>
      cases callback with
      | innerCallback => exact congrArg CallbackFuture.state (inner_innerCallback _)
      | outerCallback | other id => rfl

end Aiodrive.ShieldCallbacks
