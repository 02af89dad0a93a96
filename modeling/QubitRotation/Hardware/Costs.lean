import QubitRotation.Fault

/-!
# What a gate costs

The hardware executes rotations about X and Z, each at a fixed cost whatever the angle. Costs
have to be positive; Z is checked before X.
-/

namespace QubitRotation.Hardware

/-- The time that one rotation about each native axis takes. -/
structure Costs where
  z : UInt64 := 1
  x : UInt64 := 1
  deriving DecidableEq, Inhabited, Repr

namespace Costs

/-- Superconducting hardware: a Z rotation is a change of frame, an X rotation a pulse. -/
def superconducting : Costs := { z := 1, x := 35 }

/-- Accepts costs that are positive. -/
def check (costs : Costs) : Except Fault Unit :=
  if costs.z = 0 then .error (.invalidCost .z costs.z)
  else if costs.x = 0 then .error (.invalidCost .x costs.x)
  else .ok ()

/-- Costs that have been checked. -/
def checked (z x : UInt64) : Except Fault Costs := do
  let costs : Costs := { z, x }
  costs.check
  return costs

/-- The same cost for both axes, checked. -/
def uniform (cost : UInt64) : Except Fault Costs := checked cost cost

/-- The cost of one gate; rotations about Y have none. -/
def ofGate (costs : Costs) (gate : Gate) : Except Fault UInt64 :=
  match gate.axis with
  | .z => .ok costs.z
  | .x => .ok costs.x
  | .y => .error (.notNative gate)

/-- The costs in one line. -/
def text (costs : Costs) : String := s!"AxisCosts(Z={costs.z.toNat}, X={costs.x.toNat})"

theorem check_eq_ok_iff {costs : Costs} : costs.check = .ok () ↔ costs.z ≠ 0 ∧ costs.x ≠ 0 := by
  unfold check
  split <;> simp_all

end Costs

end QubitRotation.Hardware
