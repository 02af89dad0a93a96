/-!
# Arithmetic that stops at the largest 64-bit number

Budgets and running times never wrap around: a sum or a product that does not fit in 64 bits
is cut off at `2 ^ 64 - 1`. `cap` is that cut, and the operations on words agree with it.
-/

namespace QubitRotation.Capped

/-- The largest unsigned 64-bit number. -/
def greatest : Nat := UInt64.size - 1

/-- A number cut off at the largest 64-bit number. -/
def cap (n : Nat) : Nat := min n greatest

/-- The capped sum. -/
def add (a b : Nat) : Nat := cap (a + b)

/-- The capped product. -/
def mul (a b : Nat) : Nat := cap (a * b)

/-- The capped sum of two words. -/
def addWords (a b : UInt64) : UInt64 := UInt64.ofNat (add a.toNat b.toNat)

/-- The capped product of a word and a number. -/
def mulWord (a : UInt64) (n : Nat) : UInt64 := UInt64.ofNat (mul a.toNat n)

theorem cap_le (n : Nat) : cap n ≤ greatest := Nat.min_le_right ..

theorem cap_of_le {n : Nat} (h : n ≤ greatest) : cap n = n := Nat.min_eq_left h

theorem toNat_ofNat_cap (n : Nat) : (UInt64.ofNat (cap n)).toNat = cap n :=
  UInt64.toNat_ofNat_of_lt' (Nat.lt_of_le_of_lt (cap_le n) (by decide))

@[simp] theorem toNat_addWords (a b : UInt64) :
    (addWords a b).toNat = cap (a.toNat + b.toNat) := toNat_ofNat_cap _

@[simp] theorem toNat_mulWord (a : UInt64) (n : Nat) :
    (mulWord a n).toNat = cap (a.toNat * n) := toNat_ofNat_cap _

end QubitRotation.Capped
