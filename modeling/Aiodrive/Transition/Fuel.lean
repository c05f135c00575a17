import Mathlib.Tactic.TypeStar

/-! Computations that take fuel, and give the same result with any fuel from some amount on. -/

namespace Transition

variable {ρ : Type*}

/-- The computation gives the result with all fuel that is enough. -/
def Ends (compute : Nat → ρ) (result : ρ) : Prop :=
  ∃ enough, ∀ fuel, enough ≤ fuel → compute fuel = result

/-- A computation that uses no fuel. -/
theorem ends_const (result : ρ) : Ends (fun _ => result) result := ⟨0, fun _ _ => rfl⟩

/-- A computation that goes on after one unit of fuel. -/
theorem Ends.of_succ {compute rest : Nat → ρ} {result : ρ} (ends : Ends rest result)
    (unfolds : ∀ fuel, compute (fuel + 1) = rest fuel)
    : Ends compute result := by
  obtain ⟨enough, same⟩ := ends
  refine ⟨enough + 1, fun fuel more => ?_⟩
  obtain ⟨less, rfl⟩ := Nat.exists_eq_add_of_le' (Nat.le_of_add_left_le more)
  rw [unfolds]
  exact same less (by omega)

/-- The result does not depend on the fuel. -/
theorem Ends.unique {compute : Nat → ρ} {result other : ρ} (ends : Ends compute result)
    (same : Ends compute other)
    : result = other := by
  obtain ⟨enough, gives⟩ := ends
  obtain ⟨more, givesOther⟩ := same
  exact (gives (max enough more) (Nat.le_max_left _ _)).symm.trans
    (givesOther (max enough more) (Nat.le_max_right _ _))

end Transition
