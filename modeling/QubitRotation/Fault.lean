import QubitRotation.Gate

/-!
# What can go wrong

One type for every fault of reading, reducing, timing and configuring, with the wording of
each in `Fault.message`. A fault is *internal* if it would betray a broken reduction rule, and
an *input* fault if what the user wrote is to blame; files, settings and JSON texts are neither.
-/

namespace QubitRotation

/-- The reason why an operation gave no result. -/
inductive Fault
  /-- A token that is not an axis followed by an angle in round brackets. -/
  | malformedToken (token reason : String)
  /-- A circuit text without any gate. -/
  | emptyCircuit
  /-- A text that names no axis. -/
  | invalidAxis (text : String)
  /-- Rotations about two axes have no common rotation about either. -/
  | incompatibleAxes (left right : Axis)
  /-- A reduction used up its iterations; `gates` counts the sequence it started from. -/
  | iterationsExceeded (iterations gates : Nat)
  /-- A gate that the hardware cannot execute. -/
  | notNative (gate : Gate)
  /-- A gate cost that is not positive. -/
  | invalidCost (axis : Axis) (cost : UInt64)
  /-- Settings that contradict themselves. -/
  | invalidSettings (reason : String)
  /-- A JSON text that does not hold what it should. -/
  | json (report : String)
  /-- A file that cannot be read. -/
  | file (report : String)
  deriving DecidableEq, Repr

namespace Fault

/-- The wording of a fault. -/
def message : Fault → String
  | malformedToken token reason => s!"Malformed gate token '{token}': {reason}"
  | emptyCircuit => "Gate string is empty: expected at least one AXIS(ANGLE) token"
  | invalidAxis text => s!"Invalid axis '{text}': must be X, Y, or Z"
  | incompatibleAxes left right =>
      s!"Cannot combine rotations about different axes: {left.text} and {right.text}"
  | iterationsExceeded iterations gates =>
      s!"Rewrite loop exceeded {iterations} iterations on a {gates}-gate sequence"
  | notNative gate => s!"Gate {gate.text} is not executable on X/Z hardware"
  | invalidCost axis cost =>
      s!"Invalid cost {cost.toNat} for {axis.text} gates: must be positive"
  | invalidSettings reason => s!"Configuration error: {reason}"
  | json report => s!"JSON error: {report}"
  | file report => s!"File error: {report}"

/-- Whether the fault would show a defect of the reduction rules. -/
def isInternal : Fault → Bool
  | incompatibleAxes .. | iterationsExceeded .. | notNative _ => true
  | _ => false

/-- Whether the fault lies in what the user wrote. -/
def isInputFault : Fault → Bool
  | malformedToken .. | emptyCircuit | invalidAxis _ | invalidCost .. => true
  | _ => false

end Fault

end QubitRotation
