import QubitRotation.Angle
import QubitRotation.Axis

/-!
# Rotation gates

A gate turns a qubit about one axis by a whole number of degrees. Equality is structural:
`X(90)` and `X(450)` are two gates that do the same.
-/

namespace QubitRotation

/-- A rotation of one qubit. -/
structure Gate where
  axis : Axis
  angle : Angle
  deriving DecidableEq, Inhabited, Repr

namespace Gate

/-- A rotation about X. -/
def x (angle : Angle) : Gate := ⟨.x, angle⟩

/-- A rotation about Y. -/
def y (angle : Angle) : Gate := ⟨.y, angle⟩

/-- A rotation about Z. -/
def z (angle : Angle) : Gate := ⟨.z, angle⟩

/-- The angle of the gate in `[0, 360)`. -/
def normalizedAngle (gate : Gate) : Angle := gate.angle.normalize

/-- Whether the gate does nothing: its angle is a multiple of a full turn. -/
def isIdentity (gate : Gate) : Bool := gate.normalizedAngle == 0

/-- Whether the gate is a half turn, up to full turns. -/
def isHalfTurn (gate : Gate) : Bool := gate.normalizedAngle == Angle.halfTurn

/-- Whether the hardware executes the gate itself. -/
def isNative (gate : Gate) : Bool := gate.axis.isNative

/-- The rotation back about the same axis. -/
def inverse (gate : Gate) : Gate := ⟨gate.axis, gate.angle.opposite⟩

/-- A gate is written as its axis and, in round brackets, its angle. -/
def text (gate : Gate) : String := s!"{gate.axis.text}({gate.angle.toInt})"

@[simp] theorem inverse_axis (gate : Gate) : gate.inverse.axis = gate.axis := rfl

@[simp] theorem inverse_angle (gate : Gate) : gate.inverse.angle = gate.angle.opposite := rfl

theorem isIdentity_iff {gate : Gate} : gate.isIdentity = true ↔ gate.angle.toInt % 360 = 0 := by
  simp only [isIdentity, normalizedAngle, beq_iff_eq, ← Int64.toInt_inj, Angle.toInt_normalize]
  rfl

theorem isHalfTurn_iff {gate : Gate} :
    gate.isHalfTurn = true ↔ gate.angle.toInt % 360 = 180 := by
  simp only [isHalfTurn, normalizedAngle, beq_iff_eq, ← Int64.toInt_inj, Angle.toInt_normalize]
  rfl

end Gate

end QubitRotation
