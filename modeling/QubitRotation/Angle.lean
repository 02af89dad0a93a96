/-!
# Angles in whole degrees

An angle is kept exactly as it was given, as any signed 64-bit number of degrees. Two angles
that differ by full turns are different values and the same rotation; `normalize` picks the
representative in `[0, 360)`.

The lemmas state each operation on the integer an angle stands for. `plus` reduces both
angles before it adds them, so no sum leaves the 64-bit range, and `opposite` stays in range
for the least angle too, the only one whose negation does not exist.
-/

namespace QubitRotation

/-- A rotation angle in whole degrees. -/
abbrev Angle := Int64

namespace Angle

/-- Rotations by a multiple of a full turn change nothing. -/
def fullTurn : Int := 360

/-- A rotation by a half turn reverses the two other axes. -/
def halfTurn : Angle := 180

/-- A quarter turn carries one axis onto another. -/
def quarterTurn : Angle := 90

/-- The angle in `[0, 360)` of the same rotation. -/
def normalize (angle : Angle) : Angle :=
  Int64.ofInt (angle.toInt % fullTurn)

/-- The angle of two rotations one after the other, in `[0, 360)`. -/
def plus (a b : Angle) : Angle :=
  normalize (normalize a + normalize b)

/-- The angle of the rotation back: the sign flips and nothing is reduced. The least 64-bit
number has no negation; there the reduced angle is negated, which is the same rotation. -/
def opposite (angle : Angle) : Angle :=
  if angle = Int64.minValue then -normalize angle else -angle

@[simp] theorem toInt_normalize (angle : Angle) :
    (normalize angle).toInt = angle.toInt % 360 := by
  unfold normalize fullTurn
  rw [Int64.toInt_ofInt_of_le] <;> omega

/-- The sum of two reduced angles stays in range. -/
theorem toInt_normalize_add (a b : Angle) :
    (normalize a + normalize b).toInt = (normalize a).toInt + (normalize b).toInt := by
  rw [Int64.toInt_add, toInt_normalize, toInt_normalize, Int.bmod_eq_of_le] <;> omega

@[simp] theorem toInt_plus (a b : Angle) : (plus a b).toInt = (a.toInt + b.toInt) % 360 := by
  rw [plus, toInt_normalize, toInt_normalize_add, toInt_normalize, toInt_normalize]
  omega

/-- So does the negation of a reduced angle. -/
theorem toInt_neg_normalize (angle : Angle) :
    (-normalize angle).toInt = -(normalize angle).toInt := by
  rw [Int64.toInt_neg, toInt_normalize, Int.bmod_eq_of_le] <;> omega

/-- And that of every angle but the least. -/
theorem toInt_neg_of_ne {angle : Angle} (ne : angle ≠ Int64.minValue) :
    (-angle).toInt = -angle.toInt := by
  have low := angle.le_toInt
  have high := angle.toInt_lt
  have notLeast : angle.toInt ≠ -2 ^ 63 := fun eq =>
    ne (Int64.toInt_inj.mp (eq.trans Int64.toInt_minValue.symm))
  rw [Int64.toInt_neg, Int.bmod_eq_of_le] <;> omega

@[simp] theorem toInt_opposite (angle : Angle) :
    (opposite angle).toInt =
      if angle = Int64.minValue then -(angle.toInt % 360) else -angle.toInt := by
  unfold opposite
  split
  · rw [toInt_neg_normalize, toInt_normalize]
  · next ne => exact toInt_neg_of_ne ne

/-- Turning back undoes a turn, up to full turns. -/
theorem toInt_opposite_emod (angle : Angle) :
    (opposite angle).toInt % 360 = -angle.toInt % 360 := by
  rw [toInt_opposite]
  split <;> omega

end Angle

end QubitRotation
