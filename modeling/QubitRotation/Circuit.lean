import QubitRotation.Notation

/-!
# Circuits

A circuit is a sequence of rotation gates on one qubit, executed from left to right, with an
optional name. The empty circuit is the identity. An absent name and an empty name differ.
-/

namespace QubitRotation

/-- A sequence of gates in execution order. -/
structure Circuit where
  gates : List Gate := []
  name : Option String := none
  deriving DecidableEq, Inhabited, Repr

namespace Circuit

/-! ## Construction -/

/-- The circuit without gates and name. -/
def empty : Circuit := {}

/-- A circuit without gates. -/
def named (name : String) : Circuit := { name := some name }

/-- A circuit without name. -/
def ofGates (gates : List Gate) : Circuit := { gates }

/-- The circuit that a text in gate notation stands for, without name. -/
def parse (text : String) : Except Fault Circuit :=
  (Notation.readGates text).map ofGates

/-- The circuit with other gates and the same name. -/
def withGates (circuit : Circuit) (gates : List Gate) : Circuit := { circuit with gates }

/-- The circuit under another name. -/
def rename (circuit : Circuit) (name : String) : Circuit := { circuit with name := some name }

/-- The circuit with one more gate at its end. -/
def push (circuit : Circuit) (gate : Gate) : Circuit :=
  circuit.withGates (circuit.gates ++ [gate])

/-- The circuit with more gates at its end. -/
def extend (circuit : Circuit) (gates : List Gate) : Circuit :=
  circuit.withGates (circuit.gates ++ gates)

/-- The circuit followed by the gates of another one; the name stays. -/
def append (circuit next : Circuit) : Circuit := circuit.extend next.gates

/-- One more rotation at the end. -/
def rotate (circuit : Circuit) (axis : Axis) (angle : Angle) : Circuit :=
  circuit.push ⟨axis, angle⟩

/-- The same rotation `count` times at the end. -/
def rotateTimes (circuit : Circuit) (axis : Axis) (angle : Angle) (count : Nat) : Circuit :=
  circuit.extend (List.replicate count ⟨axis, angle⟩)

/-! ## Observation -/

/-- Whether the circuit has no gates. -/
def isEmpty (circuit : Circuit) : Bool := circuit.gates.isEmpty

/-- The number of gates. -/
def size (circuit : Circuit) : Nat := circuit.gates.length

/-- The number of gates about an axis. -/
def countAbout (circuit : Circuit) (axis : Axis) : Nat :=
  circuit.gates.countP (·.axis = axis)

/-- The numbers of gates about X, Y and Z. -/
def countsByAxis (circuit : Circuit) : List Nat := Axis.all.map circuit.countAbout

/-- Whether the hardware executes every gate. -/
def isNative (circuit : Circuit) : Bool := circuit.gates.all Gate.isNative

/-- The first gate that the hardware cannot execute. -/
def firstNonNative? (circuit : Circuit) : Option Gate := circuit.gates.find? (!·.isNative)

/-- Whether no two neighbours turn about the same axis. -/
def alternates : List Gate → Bool
  | first :: second :: rest => first.axis != second.axis && alternates (second :: rest)
  | _ => true

/-- Whether the circuit has neither identity gates nor neighbours about the same axis. -/
def isFullyMerged (circuit : Circuit) : Bool :=
  circuit.gates.all (!·.isIdentity) && alternates circuit.gates

/-- The circuit in gate notation. -/
def text (circuit : Circuit) : String := Notation.writeGates circuit.gates

@[simp] theorem withGates_name (circuit : Circuit) (gates : List Gate) :
    (circuit.withGates gates).name = circuit.name := rfl

@[simp] theorem withGates_gates (circuit : Circuit) (gates : List Gate) :
    (circuit.withGates gates).gates = gates := rfl

@[simp] theorem ofGates_gates (gates : List Gate) : (ofGates gates).gates = gates := rfl

@[simp] theorem append_gates (circuit next : Circuit) :
    (circuit.append next).gates = circuit.gates ++ next.gates := rfl

end Circuit

end QubitRotation
