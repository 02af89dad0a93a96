import QubitRotation.Gate

/-!
# Replacing Y rotations

Hardware without Y rotations executes each as a Z rotation by a quarter turn, the same turn
about X, and the Z rotation back. One scan replaces them all and leaves the other gates alone.
-/

namespace QubitRotation.Reduction

/-- The gates that stand in for a rotation about Y. -/
def expandY (angle : Angle) : List Gate :=
  [.z Angle.quarterTurn, .x angle, .z (-Angle.quarterTurn)]

/-- The gates that stand in for a gate. -/
def expand (gate : Gate) : List Gate :=
  match gate.axis with
  | .y => expandY gate.angle
  | .x | .z => [gate]

/-- The sequence with every Y rotation replaced. -/
def expandAll (gates : List Gate) : List Gate := gates.flatMap expand

/-- The number of Y rotations. -/
def countY (gates : List Gate) : Nat := gates.countP (·.axis = .y)

end QubitRotation.Reduction
