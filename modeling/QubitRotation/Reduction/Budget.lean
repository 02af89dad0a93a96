import QubitRotation.Capped

/-!
# The iteration budget

Reducing a sequence always ends on its own; the budget only guards against rules that would
undo each other. It grows with the square of the length and never exceeds 64 bits.
-/

namespace QubitRotation.Reduction

/-- The multiplier of the budget if none is chosen. -/
def defaultFactor : UInt64 := 4

/-- The iterations that every sequence may use. -/
def leastBudget : Nat := 16

/-- The iterations that a sequence of `length` gates may use:
`factor * (length + 1) ^ 2 + leastBudget`, every step capped. -/
def budget (factor length : Nat) : Nat :=
  let side := Capped.add length 1
  Capped.add (Capped.mul factor (Capped.mul side side)) leastBudget

end QubitRotation.Reduction
