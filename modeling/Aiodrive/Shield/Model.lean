import Aiodrive.Asyncio.Future

/-! `shield()` of `modules/shield.py`, as seen by the task that awaits it. The shield gives the
task an `outer` future of its own, so that a cancellation of the task does not reach the
`inner` one.
-/

namespace Aiodrive

variable {ε α : Type*}

/-- A task suspended in `await shield(inner)`, where `inner` was not done: the `outer` future,
and whether a cancellation of the task is on its way to it.
-/
structure Shielded (ε α : Type*) where
  outer : FutureState ε α
  interrupted : Bool
deriving DecidableEq, Repr

namespace Shielded

/-- `await shield(inner)` up to its suspension. -/
def new : Shielded ε α := { outer := .pending, interrupted := false }

/-- The `inner_callback` of `shield()`. It is removed, or returns early, where `outer` was
cancelled.
-/
def innerCallback (inner : FutureState ε α) (waiter : Shielded ε α)
    : Option (Shielded ε α) :=
  if inner.done && !waiter.outer.isCancelled then
    (inner.transfer waiter.outer).map (fun outer => { waiter with outer })
  else
    none

/-- `Task.cancel()` of the task, which cancels `outer` if it can. -/
def cancel (waiter : Shielded ε α) : Shielded ε α :=
  { outer := if waiter.outer.done then waiter.outer else .cancelled, interrupted := true }

/-- What the `await` resumes with, once `outer` is done. -/
def result? (waiter : Shielded ε α) : Option (FutureState ε α) :=
  if waiter.outer.done then some (if waiter.interrupted then .cancelled else waiter.outer)
  else none

/-- An `outer` future that is done has the state of the inner one, or was cancelled by a
cancellation of the task.
-/
def Sound (inner : FutureState ε α) (waiter : Shielded ε α) : Prop :=
  waiter.outer.done = true
  → waiter.outer = inner ∨ waiter.outer = .cancelled ∧ waiter.interrupted = true

theorem sound_new (inner : FutureState ε α) : (new : Shielded ε α).Sound inner := by
  simp [Sound, new]

/-- The callback gives `outer` the state of a done inner future. -/
theorem innerCallback_eq_some {inner : FutureState ε α} {waiter next : Shielded ε α}
    (called : waiter.innerCallback inner = some next)
    : inner.done = true
      ∧ waiter.outer = .pending
      ∧ next = { waiter with outer := inner } := by
  unfold innerCallback at called
  split at called
  · rename_i enabled
    simp only [Bool.and_eq_true] at enabled
    obtain ⟨outer, transferred, rfl⟩ := Option.map_eq_some_iff.mp called
    rw [FutureState.transfer_of_done enabled.1, Option.ite_none_left_eq_some] at transferred
    obtain ⟨pending, same⟩ := transferred
    obtain rfl := Option.some.inj same
    exact ⟨enabled.1, FutureState.done_eq_false_iff.mp (by simpa using pending), rfl⟩
  · contradiction

theorem Sound.innerCallback {inner : FutureState ε α} {waiter next : Shielded ε α}
    (called : waiter.innerCallback inner = some next)
    : next.Sound inner := by
  obtain ⟨_, _, rfl⟩ := innerCallback_eq_some called
  exact fun _ => Or.inl rfl

theorem Sound.cancel {inner : FutureState ε α} {waiter : Shielded ε α}
    (sound : waiter.Sound inner)
    : waiter.cancel.Sound inner := by
  unfold Sound Shielded.cancel
  cases done : waiter.outer.done with
  | true => exact fun _ => (sound done).imp_right (fun cancelled => ⟨cancelled.1, rfl⟩)
  | false => exact fun _ => Or.inr ⟨rfl, rfl⟩

/-- The end of the inner future leaves `outer` alone until the callback runs. -/
theorem Sound.innerEnds {ended : FutureState ε α} {waiter : Shielded ε α}
    (sound : waiter.Sound .pending)
    : waiter.Sound ended := by
  intro done
  rcases sound done with same | cancelled
  · simp [same] at done
  · exact Or.inr cancelled

/-- A task resumes with the state of the inner future, or with a `CancelledError` for its own
cancellation.
-/
theorem Sound.result {inner result : FutureState ε α} {waiter : Shielded ε α}
    (sound : waiter.Sound inner) (resumed : waiter.result? = some result)
    : waiter.interrupted = false ∧ result = inner ∧ inner.done = true
      ∨ waiter.interrupted = true ∧ result = .cancelled := by
  unfold result? at resumed
  split at resumed
  · rename_i done
    obtain rfl := Option.some.inj resumed
    cases interrupted : waiter.interrupted with
    | true => exact Or.inr ⟨rfl, rfl⟩
    | false =>
        rcases sound done with same | cancelled
        · exact Or.inl ⟨rfl, same, same ▸ done⟩
        · simp [interrupted] at cancelled
  · contradiction

end Shielded

/-- The end of `shield_wait()` and `shield_wait_forever()`, with the `result` they found. -/
def finishShielded (cancelled : Bool) (result : α) : Outcome ε α :=
  if cancelled then .raised .cancelledError else .returned result

/-- What the two functions owe for an inner future that is done: its exception goes first, then a
cancellation that was delivered meanwhile.
-/
def shieldedOutcome (inner : FutureState ε α) (deliveries : Nat) : Outcome ε α :=
  match inner with
  | .success value => if deliveries = 0 then .returned value else .raised .cancelledError
  | .cancelled | .exception _ | .pending => inner.result

/-- The owed outcome does not return after a delivery. -/
theorem shieldedOutcome_ne_returned {inner : FutureState ε α} {deliveries : Nat}
    (delivered : 0 < deliveries) (value : α)
    : shieldedOutcome inner deliveries ≠ .returned value := by
  cases inner <;> simp [shieldedOutcome, FutureState.result, Nat.ne_of_gt delivered]

/-- A task that succeeded ends the function as owed, if the flag tells of the deliveries. -/
theorem finishShielded_eq {cancelled : Bool} {deliveries : Nat} (value : α)
    (told : cancelled = true ↔ 0 < deliveries)
    : (finishShielded cancelled value : Outcome ε α)
      = shieldedOutcome (.success value) deliveries := by
  cases cancelled with
  | true => simp [finishShielded, shieldedOutcome, Nat.ne_of_gt (told.mp rfl)]
  | false =>
      have none : deliveries = 0 :=
        Nat.eq_zero_of_not_pos (fun delivered => by simpa using told.mpr delivered)
      simp [finishShielded, shieldedOutcome, none]

end Aiodrive
