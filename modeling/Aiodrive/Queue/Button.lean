import Aiodrive.Asyncio.Future

/-! `Button` of `modules/button.py` and the shielded wait on it. Each press resolves the
current future and replaces it, so the futures of a button are numbered in the order of
their creation, and the resolved ones are those before the current one.
-/

namespace Aiodrive

/-- `future` is the number of the button's current `_future`. -/
structure Button where
  future : Nat
deriving DecidableEq, Repr

namespace Button

def new : Button := { future := 0 }

/-- `self._future.set_result(None); self._future = loop.create_future()` -/
def press (button : Button) : Button := { future := button.future + 1 }

/-- The state of a future that is or was the button's `_future`. -/
def state (button : Button) (future : Nat) : FutureState Empty Unit :=
  if future < button.future then .success () else .pending

/-- A task suspended in `await button`: `shield()` gave it an `outer` future of its own, which
takes over the state of `inner` in a callback.
-/
structure Waiter where
  inner : Nat
  outer : FutureState Empty Unit
deriving DecidableEq, Repr

/-- `await button` up to its suspension; the current future is never done. -/
def wait (button : Button) : Waiter := { inner := button.future, outer := .pending }

/-- The `inner_callback` of `shield()`, which runs some time after `inner` is done. -/
def innerCallback (button : Button) (waiter : Waiter) : Option Waiter :=
  if (button.state waiter.inner).done then
    ((button.state waiter.inner).transfer waiter.outer).map
      (fun outer => { waiter with outer })
  else
    none

/-- No wake-up is in flight to the waiter: its future has not been resolved. -/
def Asleep (button : Button) (waiter : Waiter) : Prop :=
  (button.state waiter.inner).done = false

theorem asleep_iff {button : Button} {waiter : Waiter}
    : button.Asleep waiter ↔ button.future ≤ waiter.inner := by
  unfold Asleep state
  split <;> simp <;> omega

instance (button : Button) (waiter : Waiter) : Decidable (button.Asleep waiter) :=
  inferInstanceAs (Decidable (_ = _))

theorem asleep_wait (button : Button) : button.Asleep button.wait := by
  simp [asleep_iff, wait]

/-- The callback is one of a waiter that is not asleep, and ends its `outer` future. -/
theorem innerCallback_eq_some {button : Button} {waiter next : Waiter}
    (called : button.innerCallback waiter = some next)
    : next.inner = waiter.inner ∧ waiter.inner < button.future := by
  unfold innerCallback state at called
  split at called
  · rename_i resolved
    obtain ⟨outer, _, rfl⟩ := Option.map_eq_some_iff.mp called
    refine ⟨rfl, ?_⟩
    by_contra late
    simp [late] at resolved
  · contradiction

/-- A waiter whose callback ran is not asleep. -/
theorem not_asleep_of_innerCallback {button : Button} {waiter next : Waiter}
    (called : button.innerCallback waiter = some next)
    : ¬button.Asleep next := by
  obtain ⟨same, resolved⟩ := innerCallback_eq_some called
  rw [asleep_iff]
  omega

/-- The callback resolves the `outer` future. -/
theorem outer_of_innerCallback {button : Button} {waiter next : Waiter}
    (called : button.innerCallback waiter = some next)
    : waiter.outer.done = false ∧ next.outer.done = true := by
  unfold innerCallback at called
  split at called
  · rename_i resolved
    obtain ⟨outer, transferred, rfl⟩ := Option.map_eq_some_iff.mp called
    rw [FutureState.transfer_of_done resolved] at transferred
    split at transferred
    · contradiction
    · rename_i pending
      exact ⟨by simpa using pending, Option.some.inj transferred ▸ resolved⟩
  · contradiction

/-- The callback of a resolved future finds its waiter's `outer` future pending. -/
theorem innerCallback_isSome {button : Button} {waiter : Waiter}
    (awake : ¬button.Asleep waiter) (pending : waiter.outer.done = false)
    : (button.innerCallback waiter).isSome = true := by
  have resolved : waiter.inner < button.future := by
    rw [asleep_iff] at awake
    omega
  simp [innerCallback, state, resolved, FutureState.transfer, pending]

/-- A waiter of the button: it holds a future that the button has or had, and is woken only
by a press.
-/
structure Holds (button : Button) (waiter : Waiter) : Prop where
  known : waiter.inner ≤ button.future
  woken : waiter.outer.done = true → waiter.inner < button.future

theorem holds_wait (button : Button) : button.Holds button.wait :=
  ⟨Nat.le_refl _, by simp [wait]⟩

theorem Holds.press {button : Button} {waiter : Waiter} (holds : button.Holds waiter)
    : button.press.Holds waiter :=
  ⟨Nat.le_succ_of_le holds.known, fun done => Nat.lt_succ_of_lt (holds.woken done)⟩

theorem Holds.innerCallback {button : Button} {waiter next : Waiter}
    (called : button.innerCallback waiter = some next)
    : button.Holds next := by
  obtain ⟨same, resolved⟩ := innerCallback_eq_some called
  exact ⟨by omega, fun _ => by omega⟩

/-- A press leaves no waiter of the button asleep. -/
theorem Holds.not_asleep_press {button : Button} {waiter : Waiter}
    (holds : button.Holds waiter)
    : ¬button.press.Asleep waiter := by
  have known := holds.known
  simp only [asleep_iff, Button.press]
  omega

end Button

end Aiodrive
