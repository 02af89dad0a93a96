/-!
# Rotation axes

The hardware turns a qubit about the X and the Z axis; rotations about Y have to be built
from those. An axis is written as its capital letter.
-/

namespace QubitRotation

/-- An axis of rotation. -/
inductive Axis
  | x
  | y
  | z
  deriving DecidableEq, Inhabited, Repr

namespace Axis

/-- The three axes in their usual order. -/
def all : List Axis := [.x, .y, .z]

/-- Whether the hardware turns about this axis itself. -/
def isNative : Axis → Bool
  | .x | .z => true
  | .y => false

/-- The letter that stands for the axis. -/
def letter : Axis → Char
  | .x => 'X'
  | .y => 'Y'
  | .z => 'Z'

/-- The axis a letter stands for; small letters stand for none. -/
def ofLetter? : Char → Option Axis
  | 'X' => some .x
  | 'Y' => some .y
  | 'Z' => some .z
  | _ => none

/-- The axis as text. -/
def text (axis : Axis) : String := axis.letter.toString

@[simp] theorem ofLetter?_letter (axis : Axis) : ofLetter? axis.letter = some axis := by
  cases axis <;> rfl

theorem ofLetter?_eq_some_iff {c : Char} {axis : Axis} :
    ofLetter? c = some axis ↔ c = axis.letter := by
  constructor
  · intro h
    unfold ofLetter? at h
    split at h <;> cases h <;> rfl
  · rintro rfl
    exact ofLetter?_letter axis

theorem isNative_iff {axis : Axis} : axis.isNative = true ↔ axis ≠ .y := by
  cases axis <;> decide

end Axis

end QubitRotation
