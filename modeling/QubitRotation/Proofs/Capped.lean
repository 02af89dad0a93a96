import QubitRotation.Capped

/-!
# Cutting off once

A sum or a product of numbers that were cut off before is cut off in the same place as the sum or
product of the numbers themselves. So a chain of capped operations is one cut at its end, as long
as all of them are monotone.
-/

namespace QubitRotation.Capped

theorem cap_of_ge {n : Nat} (large : greatest ≤ n) : cap n = greatest := Nat.min_eq_right large

theorem cap_cap_add (a b : Nat) : cap (cap a + b) = cap (a + b) := by
  unfold cap
  omega

theorem cap_add_cap (a b : Nat) : cap (a + cap b) = cap (a + b) := by
  rw [Nat.add_comm, cap_cap_add, Nat.add_comm]

theorem cap_cap_mul (a b : Nat) : cap (cap a * b) = cap (a * b) := by
  by_cases fits : a ≤ greatest
  · rw [cap_of_le fits]
  · obtain rfl | some : b = 0 ∨ 0 < b := Nat.eq_zero_or_pos b
    · rfl
    · have above : greatest ≤ a := by omega
      have left : greatest ≤ greatest * b := Nat.le_mul_of_pos_right _ some
      have right : greatest ≤ a * b := Nat.le_trans above (Nat.le_mul_of_pos_right _ some)
      rw [cap_of_ge above, cap_of_ge left, cap_of_ge right]

theorem cap_mul_cap (a b : Nat) : cap (a * cap b) = cap (a * b) := by
  rw [Nat.mul_comm, cap_cap_mul, Nat.mul_comm]

theorem le_cap {n bound : Nat} (low : bound ≤ n) (fits : bound ≤ greatest) : bound ≤ cap n :=
  Nat.le_min.mpr ⟨low, fits⟩

theorem cap_mono {a b : Nat} (le : a ≤ b) : cap a ≤ cap b := by
  unfold cap
  omega

/-! ## Words -/

/-- A word is never cut off. -/
theorem ofNat_cap_toNat (a : UInt64) : UInt64.ofNat (cap a.toNat) = a := by
  have fits : a.toNat ≤ greatest := Nat.le_sub_one_of_lt a.toNat_lt_size
  rw [cap_of_le fits, UInt64.ofNat_toNat]

theorem ofNat_cap_mono {a b : Nat} (le : a ≤ b) : UInt64.ofNat (cap a) ≤ UInt64.ofNat (cap b) := by
  rw [UInt64.le_iff_toNat_le, toNat_ofNat_cap, toNat_ofNat_cap]
  exact cap_mono le

theorem addWords_mulWord (a b : UInt64) (m n : Nat) :
    addWords (mulWord a m) (mulWord b n) = UInt64.ofNat (cap (a.toNat * m + b.toNat * n)) := by
  rw [addWords, add, toNat_mulWord, toNat_mulWord, cap_cap_add, cap_add_cap]

end QubitRotation.Capped
