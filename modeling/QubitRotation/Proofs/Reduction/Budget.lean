import Mathlib.Algebra.Order.Ring.Nat
import Mathlib.Tactic.Ring
import QubitRotation.Proofs.Capped
import QubitRotation.Reduction.Budget

/-!
# The budget as one capped number

The budget is computed by two sums and two products, and each of them stops at the largest 64-bit
number on its own. They may stop at different places, and a factor of zero makes little of a square
that was cut off. But all of them are monotone, so what comes out is the exact value of the
polynomial, cut off once (`budget_eq_cap`).

A positive factor therefore pays for the `2 * n + 1` iterations that a sequence of `n` gates may
need, as long as that number fits in 64 bits (`le_budget`). Beyond, every positive factor gives the
largest budget there is (`budget_of_long`). `budget_saturates` is the summary.
-/

namespace QubitRotation.Reduction

/-- Cutting off four times is cutting off once. -/
theorem budget_eq_cap (factor length : Nat) :
    budget factor length = Capped.cap (factor * (length + 1) ^ 2 + 16) := by
  simp only [budget, leastBudget, Capped.add, Capped.mul, Capped.cap_cap_add,
    Capped.cap_cap_mul, Capped.cap_mul_cap, pow_two]

theorem leastBudget_le_budget (factor length : Nat) : leastBudget ≤ budget factor length := by
  rw [budget_eq_cap]
  exact Capped.le_cap (Nat.le_add_left ..) (by decide)

theorem budget_pos (factor length : Nat) : 0 < budget factor length :=
  Nat.lt_of_lt_of_le (by decide) (leastBudget_le_budget factor length)

/-- Before it is cut off, the budget of a positive factor is larger than any run needs. -/
theorem two_mul_add_one_le {factor : Nat} (positive : 0 < factor) (length : Nat) :
    2 * length + 1 ≤ factor * (length + 1) ^ 2 + 16 := by
  have square : (length + 1) ^ 2 ≤ factor * (length + 1) ^ 2 :=
    Nat.le_mul_of_pos_left _ positive
  have expand : (length + 1) ^ 2 = length * length + 2 * length + 1 := by ring
  omega

/-- A positive factor pays for every run whose bound fits in 64 bits. -/
theorem le_budget {factor length : Nat} (positive : 0 < factor) (short : length < 2 ^ 63) :
    2 * length + 1 ≤ budget factor length := by
  rw [budget_eq_cap]
  apply Capped.le_cap (two_mul_add_one_le positive length)
  change 2 * length + 1 ≤ UInt64.size - 1
  norm_num [UInt64.size]
  omega

/-- Where the bound does not fit, every positive factor gives the greatest budget there is. -/
theorem budget_of_long {factor length : Nat} (positive : 0 < factor) (long : 2 ^ 63 ≤ length) :
    budget factor length = Capped.greatest := by
  rw [budget_eq_cap]
  apply Capped.cap_of_ge
  refine Nat.le_trans ?_ (two_mul_add_one_le positive length)
  change UInt64.size - 1 ≤ 2 * length + 1
  norm_num [UInt64.size]
  omega

/-- A larger factor and a longer sequence never lower the budget. -/
theorem budget_mono {factor larger length longer : Nat} (factor_le : factor ≤ larger)
    (length_le : length ≤ longer) : budget factor length ≤ budget larger longer := by
  rw [budget_eq_cap, budget_eq_cap]
  apply Capped.cap_mono
  have square : (length + 1) ^ 2 ≤ (longer + 1) ^ 2 :=
    Nat.pow_le_pow_left (Nat.succ_le_succ length_le) 2
  exact Nat.add_le_add_right (Nat.mul_le_mul factor_le square) 16

/-- The budget saturates exactly: it is what the polynomial comes to in unbounded numbers, or the
largest 64-bit number if that is less. So it grows with the factor and with the length, is never
below the least budget, and with a positive factor covers `2 * n + 1` iterations for `n` gates. -/
theorem budget_saturates (factor length : Nat) :
    budget factor length = min (2 ^ 64 - 1) (factor * (length + 1) ^ 2 + 16) ∧
    (∀ larger longer, factor ≤ larger → length ≤ longer →
      budget factor length ≤ budget larger longer) ∧
    16 ≤ budget factor length ∧
    (0 < factor → length < 2 ^ 63 → 2 * length + 1 ≤ budget factor length) := by
  refine ⟨?exact, ?monotone, leastBudget_le_budget factor length, le_budget⟩
  case exact =>
    rw [budget_eq_cap, Capped.cap, Nat.min_comm]
    rfl
  case monotone =>
    intro larger longer factor_le length_le
    exact budget_mono factor_le length_le

/-- The longest sequence whose bound fits. Its square does not, and a factor of zero undoes that. -/
theorem budget_saturates_of_longest :
    let longest := 2 ^ 63 - 1
    (0 < 1 ∧ longest < 2 ^ 63 ∧ budget 1 longest = 2 ^ 64 - 1 ∧
      2 * longest + 1 ≤ budget 1 longest) ∧
    (0 ≤ 1 ∧ 9 ≤ longest ∧ budget 0 9 ≤ budget 1 longest) ∧
    budget 0 longest = 16 := by
  intro longest
  have positive : 0 < 1 := Nat.one_pos
  have short : longest < 2 ^ 63 := by decide
  have longer : 9 ≤ longest := by decide
  obtain ⟨exact, _, _, covers⟩ := budget_saturates 1 longest
  obtain ⟨_, monotone, _⟩ := budget_saturates 0 9
  refine ⟨⟨positive, short, exact.trans (by decide), covers positive short⟩,
    ⟨Nat.zero_le 1, longer, monotone 1 longest (Nat.zero_le 1) longer⟩, ?_⟩
  exact (budget_saturates 0 longest).1.trans (by decide)

end QubitRotation.Reduction
