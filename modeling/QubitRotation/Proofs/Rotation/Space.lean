import Mathlib.Analysis.SpecialFunctions.Trigonometric.Basic
import Mathlib.LinearAlgebra.Matrix.Notation
import Mathlib.LinearAlgebra.UnitaryGroup
import QubitRotation.Proofs.Rotation.System

/-!
# Rotations of space

The rotations of three-dimensional space about the coordinate axes are a rotation system in the
special orthogonal group. The matrices are the usual right-handed ones, with angles in degrees.
-/

namespace QubitRotation

open Real Matrix

/-- An angle in degrees as a real number of radians. -/
noncomputable def radians (degrees : Int) : ℝ := degrees * (π / 180)

@[simp] theorem radians_add (a b : Int) : radians (a + b) = radians a + radians b := by
  simp only [radians]
  push_cast
  ring

@[simp] theorem radians_neg (a : Int) : radians (-a) = -radians a := by
  simp only [radians]
  push_cast
  ring

theorem radians_full : radians 360 = 2 * π := by
  simp only [radians]
  push_cast
  ring

theorem radians_half : radians 180 = π := by
  simp only [radians]
  push_cast
  ring

theorem radians_quarter : radians 90 = π / 2 := by
  simp only [radians]
  push_cast
  ring

namespace Space

/-- The matrix of the rotation of space about an axis. -/
noncomputable def matrix (axis : Axis) (angle : ℝ) : Matrix (Fin 3) (Fin 3) ℝ :=
  match axis with
  | .x => !![1, 0, 0; 0, cos angle, -sin angle; 0, sin angle, cos angle]
  | .y => !![cos angle, 0, sin angle; 0, 1, 0; -sin angle, 0, cos angle]
  | .z => !![cos angle, -sin angle, 0; sin angle, cos angle, 0; 0, 0, 1]

theorem matrix_zero (axis : Axis) : matrix axis 0 = 1 := by
  cases axis <;> simp [matrix, Matrix.one_fin_three]

theorem matrix_add (axis : Axis) (a b : ℝ) :
    matrix axis (a + b) = matrix axis a * matrix axis b := by
  cases axis <;>
    simp [matrix, cos_add, sin_add, sub_eq_add_neg, add_comm, mul_comm]

theorem matrix_transpose (axis : Axis) (angle : ℝ) :
    (matrix axis angle)ᵀ = matrix axis (-angle) := by
  ext i j
  cases axis <;> fin_cases i <;> fin_cases j <;> simp [matrix]

theorem matrix_det (axis : Axis) (angle : ℝ) : (matrix axis angle).det = 1 := by
  have pythagoras := cos_sq_add_sin_sq angle
  cases axis <;> simp [matrix, Matrix.det_fin_three] <;> linarith

/-- The rotation of space about an axis. -/
noncomputable def rotation (axis : Axis) (angle : ℝ) : specialOrthogonalGroup (Fin 3) ℝ where
  val := matrix axis angle
  property := by
    refine mem_specialOrthogonalGroup_iff.mpr ⟨?_, matrix_det axis angle⟩
    rw [mem_orthogonalGroup_iff, matrix_transpose, ← matrix_add, add_neg_cancel, matrix_zero]

theorem rotation_add (axis : Axis) (a b : ℝ) :
    rotation axis (a + b) = rotation axis a * rotation axis b :=
  Subtype.ext (matrix_add axis a b)

/-- The rotations of space about the coordinate axes, by whole degrees. -/
noncomputable def system : FramedSystem (specialOrthogonalGroup (Fin 3) ℝ) where
  turn axis degrees := rotation axis (radians degrees)
  turn_add axis a b := by rw [radians_add, rotation_add]
  turn_full axis := by
    apply Subtype.ext
    rw [radians_full]
    change matrix axis (2 * π) = 1
    rw [← matrix_zero axis]
    cases axis <;> simp [matrix]
  turn_half {axis mirror} apart angle := by
    apply Subtype.ext
    change matrix mirror (radians 180) * matrix axis (radians angle) =
      matrix axis (radians (-angle)) * matrix mirror (radians 180)
    rw [radians_half, radians_neg]
    cases axis <;> cases mirror <;> first
      | exact absurd rfl apart
      | simp [matrix]
  turn_y angle := by
    apply Subtype.ext
    change matrix .y (radians angle) =
      matrix .z (radians 90) * matrix .x (radians angle) * matrix .z (radians (-90))
    rw [radians_neg, radians_quarter]
    simp [matrix]

end Space

end QubitRotation
