import Mathlib.Data.List.Nodup
import Mathlib.Data.List.Range

/-! A ledger of resources that are opened and closed, numbered in the order in which they are
opened, and the ones that are held: each resource is held or has been closed, and that once.
-/

namespace Resources

structure Ledger where
  opened : Nat
  closed : List Nat
deriving DecidableEq, Repr

namespace Ledger

def new : Ledger := { opened := 0, closed := [] }

/-- Opens the resource whose number is `ledger.opened`. -/
def openNext (ledger : Ledger) : Ledger := { ledger with opened := ledger.opened + 1 }

def close (ledger : Ledger) (resource : Nat) : Ledger :=
  { ledger with closed := ledger.closed ++ [resource] }

/-- Of all resources that have been opened, exactly those held are open, and each of the others has
been closed exactly once.
-/
def Holds (ledger : Ledger) (held : List Nat) : Prop :=
  (ledger.closed ++ held).Perm (List.range ledger.opened)

theorem holds_new : new.Holds [] := .refl _

theorem Holds.openNext {ledger : Ledger} {held : List Nat} (holds : ledger.Holds held)
    : ledger.openNext.Holds (ledger.opened :: held) := by
  unfold Holds at *
  calc
    ledger.closed ++ ledger.opened :: held
    _ |>.Perm (ledger.opened :: (ledger.closed ++ held)) := List.perm_middle
    _ |>.Perm (ledger.opened :: List.range ledger.opened) := holds.cons _
    _ |>.Perm (List.range ledger.openNext.opened) := by
      rw [Ledger.openNext, List.range_succ]
      exact (List.perm_append_singleton _ _).symm

/-- Closing a resource that is held. -/
theorem Holds.close {ledger : Ledger} {resource : Nat} {held : List Nat}
    (holds : ledger.Holds (resource :: held))
    : (ledger.close resource).Holds held := by
  unfold Holds at *
  simpa [Ledger.close] using holds

/-- The order of the resources that are held does not matter. -/
theorem Holds.swap {ledger : Ledger} {first second : Nat} {held : List Nat}
    (holds : ledger.Holds (first :: second :: held))
    : ledger.Holds (second :: first :: held) :=
  (List.Perm.append_left _ (.swap first second held)).trans holds

/-- Where a single resource is held, it is open, and every other one has been closed exactly
once.
-/
theorem Holds.single {ledger : Ledger} {resource : Nat} (holds : ledger.Holds [resource])
    : (resource < ledger.opened ∧ resource ∉ ledger.closed)
      ∧ ∀ other, other < ledger.opened → other ≠ resource → ledger.closed.count other = 1 := by
  have nodup : (ledger.closed ++ [resource]).Nodup := holds.nodup_iff.mpr List.nodup_range
  obtain ⟨distinct, -, apart⟩ := List.nodup_append.mp nodup
  have opened (other : Nat) : other ∈ ledger.closed ∨ other = resource ↔ other < ledger.opened := by
    rw [← List.mem_range, ← holds.mem_iff, List.mem_append, List.mem_singleton]
  refine ⟨⟨(opened resource).mp (.inr rfl), fun closed => ?_⟩, fun other known different => ?_⟩
  · exact apart resource closed resource (List.mem_singleton_self _) rfl
  · exact List.count_eq_one_of_mem distinct (((opened other).mpr known).resolve_right different)

end Ledger

end Resources
