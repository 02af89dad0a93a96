import Mathlib.Analysis.CStarAlgebra.Classes
import Mathlib.Analysis.Normed.Algebra.MatrixExponential
import Mathlib.Analysis.SpecialFunctions.Trigonometric.Series
import Mathlib.GroupTheory.QuotientGroup.Basic
import Mathlib.LinearAlgebra.Matrix.Notation
import Mathlib.LinearAlgebra.UnitaryGroup
import Mathlib.Tactic.Module
import QubitRotation.Proofs.Rotation.Space

/-!
# Rotations of a qubit

The operator of a rotation of a qubit by an angle `θ` is `exp (-i θ σ / 2)`, with the Pauli matrix
`σ` of the axis. Since `σ` is an involution, it equals `cos (θ / 2) - i sin (θ / 2) σ`
(`matrix_eq`); everything else follows from that form. The operators are unitary. A full turn is
`-1`, so they are a rotation system only up to global phase: `phases` holds the multiples of the
identity, and `system` lives in the quotient by them. `sameUpToPhase_iff` translates equality
there into matrices.

No two rotations about Y agree up to phase unless their angles do up to full turns
(`turn_y_eq_iff`).
-/

namespace QubitRotation.Spin

open Complex Matrix

/-- The Pauli matrix of an axis. -/
def pauli : Axis → Matrix (Fin 2) (Fin 2) ℂ
  | .x => !![0, 1; 1, 0]
  | .y => !![0, -I; I, 0]
  | .z => !![1, 0; 0, -1]

theorem pauli_mul_self (axis : Axis) : pauli axis * pauli axis = 1 := by
  cases axis <;> simp [pauli, Matrix.one_fin_two]

/-- Pauli matrices of two axes anticommute. -/
theorem pauli_mul_pauli {axis mirror : Axis} (apart : axis ≠ mirror) :
    pauli mirror * pauli axis = -(pauli axis * pauli mirror) := by
  cases axis <;> cases mirror <;> first
    | exact absurd rfl apart
    | simp [pauli]

theorem pauli_z_mul_pauli_x : pauli .z * pauli .x = I • pauli .y := by
  simp [pauli]

theorem star_pauli (axis : Axis) : star (pauli axis) = pauli axis := by
  ext i j
  cases axis <;> fin_cases i <;> fin_cases j <;> simp [pauli, star_apply]

/-- The operator of a rotation by an angle about an axis. -/
noncomputable def matrix (axis : Axis) (angle : ℝ) : Matrix (Fin 2) (Fin 2) ℂ :=
  NormedSpace.exp ((-(I * (angle / 2))) • pauli axis)

/-- The even powers of a Pauli matrix are the identity and sum up to the cosine, the odd ones are
the matrix itself and sum up to the sine. -/
theorem matrix_eq (axis : Axis) (angle : ℝ) :
    matrix axis angle = cos (angle / 2) • 1 - (I * sin (angle / 2)) • pauli axis := by
  have power (n : Nat) : pauli axis ^ (2 * n) = 1 := by
    rw [pow_mul, pow_two, pauli_mul_self, one_pow]
  have even := (hasSum_cos' (-(angle / 2 : ℂ))).smul_const (1 : Matrix (Fin 2) (Fin 2) ℂ)
  have odd := ((hasSum_sin' (-(angle / 2 : ℂ))).mul_left I).smul_const (pauli axis)
  rw [cos_neg] at even
  rw [sin_neg, mul_neg, neg_smul] at odd
  rw [matrix, NormedSpace.exp_eq_tsum ℂ, sub_eq_add_neg]
  refine (HasSum.even_add_odd ?even ?odd).tsum_eq
  case even =>
    convert! even using 2 with n
    rw [smul_pow, power, smul_smul]
    congr 1
    ring
  case odd =>
    convert! odd using 2 with n
    rw [smul_pow, pow_succ (pauli axis), power, one_mul, smul_smul]
    congr 1
    have nonzero := I_ne_zero
    field_simp

theorem matrix_zero (axis : Axis) : matrix axis 0 = 1 := by
  simp [matrix_eq]

theorem matrix_neg (axis : Axis) (angle : ℝ) :
    matrix axis (-angle) = cos (angle / 2) • 1 + (I * sin (angle / 2)) • pauli axis := by
  simp [matrix_eq, neg_div]

theorem matrix_add (axis : Axis) (a b : ℝ) :
    matrix axis (a + b) = matrix axis a * matrix axis b := by
  have square : I * sin (a / 2) * (I * sin (b / 2)) = -(sin (a / 2) * sin (b / 2)) := by
    linear_combination sin (a / 2) * sin (b / 2) * I_mul_I
  rw [matrix_eq, matrix_eq, matrix_eq, sub_mul, mul_sub, mul_sub, smul_mul_smul_comm, smul_mul_smul_comm,
    smul_mul_smul_comm, smul_mul_smul_comm, pauli_mul_self, square, ofReal_add, add_div, cos_add,
    sin_add, one_mul, mul_one, one_mul]
  module

theorem matrix_full (axis : Axis) : matrix axis (2 * Real.pi) = (-1 : ℂ) • 1 := by
  simp [matrix_eq]

theorem matrix_half (axis : Axis) : matrix axis Real.pi = (-I) • pauli axis := by
  simp [matrix_eq]

/-- A half turn reverses the rotations about the other axes. -/
theorem matrix_half_mul {axis mirror : Axis} (apart : axis ≠ mirror) (angle : ℝ) :
    matrix mirror Real.pi * matrix axis angle = matrix axis (-angle) * matrix mirror Real.pi := by
  rw [matrix_half, matrix_neg, matrix_eq, mul_sub, add_mul, smul_mul_smul_comm, smul_mul_smul_comm,
    smul_mul_smul_comm, smul_mul_smul_comm, pauli_mul_pauli apart, one_mul, mul_one]
  module

/-- A quarter turn about Z carries the rotations about X to those about Y. -/
theorem matrix_frame (angle : ℝ) :
    matrix .y angle =
      matrix .z (Real.pi / 2) * matrix .x angle * matrix .z (-(Real.pi / 2)) := by
  have back : matrix .z (Real.pi / 2) * matrix .z (-(Real.pi / 2)) = 1 := by
    rw [← matrix_add, add_neg_cancel, matrix_zero]
  have twice : matrix .z (Real.pi / 2) * matrix .z (Real.pi / 2) = (-I) • pauli .z := by
    rw [← matrix_add, add_halves, matrix_half]
  have anticommute : pauli .x * pauli .z = -(pauli .z * pauli .x) := pauli_mul_pauli (by decide)
  have cross : pauli .x * matrix .z (-(Real.pi / 2)) = matrix .z (Real.pi / 2) * pauli .x := by
    rw [matrix_neg, matrix_eq, mul_add, sub_mul, mul_smul_comm, mul_smul_comm, smul_mul_assoc,
      smul_mul_assoc, anticommute, mul_one, one_mul]
    module
  rw [matrix_eq .y, matrix_eq .x, mul_assoc, sub_mul, smul_mul_assoc, smul_mul_assoc, one_mul, cross, mul_sub,
    mul_smul_comm, mul_smul_comm, back, ← mul_assoc, twice, smul_mul_assoc, pauli_z_mul_pauli_x,
    smul_smul, smul_smul]
  congr 2
  linear_combination I * sin (angle / 2) * I_mul_I

theorem star_matrix (axis : Axis) (angle : ℝ) : star (matrix axis angle) = matrix axis (-angle) := by
  have realHalf : (starRingEnd ℂ) (angle / 2 : ℂ) = angle / 2 := by
    rw [map_div₀, conj_ofReal, map_ofNat]
  have realCos : star (cos (angle / 2)) = cos (angle / 2) := by
    rw [star_def, ← cos_conj, realHalf]
  have realSin : star (sin (angle / 2)) = sin (angle / 2) := by
    rw [star_def, ← sin_conj, realHalf]
  rw [matrix_neg, matrix_eq, star_sub, star_smul, star_smul, star_pauli, star_one, realCos, star_mul',
    realSin, star_def, conj_I, neg_mul, neg_smul, sub_neg_eq_add]

/-- The rotation about an axis, as a unitary operator. -/
noncomputable def rotation (axis : Axis) (angle : ℝ) : unitaryGroup (Fin 2) ℂ where
  val := matrix axis angle
  property := by
    rw [mem_unitaryGroup_iff, star_matrix, ← matrix_add, add_neg_cancel, matrix_zero]

theorem rotation_add (axis : Axis) (a b : ℝ) :
    rotation axis (a + b) = rotation axis a * rotation axis b :=
  Subtype.ext (matrix_add axis a b)

/-! ## Global phases -/

/-- The multiples of the identity. -/
def phases : Subgroup (unitaryGroup (Fin 2) ℂ) where
  carrier := {U | ∃ phase : ℂ, (U : Matrix (Fin 2) (Fin 2) ℂ) = phase • 1}
  one_mem' := ⟨1, (one_smul _ _).symm⟩
  mul_mem' := by
    rintro U V ⟨a, hU⟩ ⟨b, hV⟩
    exact ⟨a * b, by rw [UnitaryGroup.mul_val, hU, hV, smul_mul_smul_comm, one_mul]⟩
  inv_mem' := by
    rintro U ⟨a, hU⟩
    exact ⟨star a, by rw [UnitaryGroup.inv_val, hU, star_smul, star_one]⟩

instance : phases.Normal where
  conj_mem := by
    rintro U ⟨phase, hU⟩ V
    refine ⟨phase, ?_⟩
    rw [UnitaryGroup.mul_val, UnitaryGroup.mul_val, hU, mul_smul_comm, mul_one, smul_mul_assoc,
      ← UnitaryGroup.mul_val, mul_inv_cancel, UnitaryGroup.one_val]

/-- Two operators that differ by a complex number of absolute value one. -/
def SameUpToPhase (U V : unitaryGroup (Fin 2) ℂ) : Prop :=
  ∃ phase : ℂ, ‖phase‖ = 1 ∧
    (U : Matrix (Fin 2) (Fin 2) ℂ) = phase • (V : Matrix (Fin 2) (Fin 2) ℂ)

theorem sameUpToPhase_iff {U V : unitaryGroup (Fin 2) ℂ} :
    SameUpToPhase U V ↔
      (U : unitaryGroup (Fin 2) ℂ ⧸ phases) = (V : unitaryGroup (Fin 2) ℂ ⧸ phases) := by
  rw [eq_comm, QuotientGroup.eq]
  constructor
  · rintro ⟨phase, -, eq⟩
    refine ⟨phase, ?_⟩
    rw [UnitaryGroup.mul_val, eq, mul_smul_comm, ← UnitaryGroup.mul_val, inv_mul_cancel,
      UnitaryGroup.one_val]
  · rintro ⟨phase, eq⟩
    have scaled : (U : Matrix (Fin 2) (Fin 2) ℂ) = phase • (V : Matrix (Fin 2) (Fin 2) ℂ) := by
      rw [← mul_inv_cancel_left V U, UnitaryGroup.mul_val, eq, mul_smul_comm, mul_one]
    have unit : (star phase * phase) • (1 : Matrix (Fin 2) (Fin 2) ℂ) = 1 :=
      calc (star phase * phase) • (1 : Matrix (Fin 2) (Fin 2) ℂ)
          = star (U : Matrix (Fin 2) (Fin 2) ℂ) * U := by
            rw [scaled, star_smul, smul_mul_smul_comm, UnitaryGroup.star_mul_self]
        _ = 1 := UnitaryGroup.star_mul_self U
    have entry := congrFun (congrFun unit 0) 0
    rw [Matrix.smul_apply, one_apply_eq, smul_eq_mul, mul_one, star_def, conj_mul'] at entry
    have square : ‖phase‖ ^ 2 = 1 := by exact_mod_cast entry
    exact ⟨phase, (pow_eq_one_iff_of_nonneg (norm_nonneg phase) two_ne_zero).mp square, scaled⟩

/-- The rotations of a qubit, up to global phase and by whole degrees. -/
noncomputable def system : FramedSystem (unitaryGroup (Fin 2) ℂ ⧸ phases) where
  turn axis degrees := rotation axis (radians degrees)
  turn_add axis a b := by rw [radians_add, rotation_add, QuotientGroup.mk_mul]
  turn_full axis := by
    rw [radians_full, QuotientGroup.eq_one_iff]
    exact ⟨-1, matrix_full axis⟩
  turn_half {axis mirror} apart angle := by
    rw [← QuotientGroup.mk_mul, ← QuotientGroup.mk_mul, radians_half, radians_neg]
    congr 1
    exact Subtype.ext (matrix_half_mul apart (radians angle))
  turn_y angle := by
    rw [← QuotientGroup.mk_mul, ← QuotientGroup.mk_mul, radians_neg, radians_quarter]
    congr 1
    exact Subtype.ext (matrix_frame (radians angle))

/-! ## Gates -/

/-- The operator of a gate. -/
noncomputable def ofGate (gate : Gate) : unitaryGroup (Fin 2) ℂ :=
  rotation gate.axis (radians gate.angle.toInt)

/-- The product of the operators of a sequence in the order in which it is written. -/
noncomputable def written (gates : List Gate) : unitaryGroup (Fin 2) ℂ :=
  Rotation.written ofGate gates

/-- The operator of executing a sequence from left to right. -/
noncomputable def executed (gates : List Gate) : unitaryGroup (Fin 2) ℂ :=
  Rotation.executed ofGate gates

theorem sameUpToPhase_written {first second : List Gate} :
    SameUpToPhase (written first) (written second) ↔
      system.written first = system.written second := by
  rw [sameUpToPhase_iff]
  change QuotientGroup.mk' phases (Rotation.written ofGate first) =
    QuotientGroup.mk' phases (Rotation.written ofGate second) ↔ _
  rw [Rotation.map_written, Rotation.map_written]
  rfl

theorem sameUpToPhase_executed {first second : List Gate} :
    SameUpToPhase (executed first) (executed second) ↔
      system.executed first = system.executed second := by
  rw [sameUpToPhase_iff]
  change QuotientGroup.mk' phases (Rotation.executed ofGate first) =
    QuotientGroup.mk' phases (Rotation.executed ofGate second) ↔ _
  rw [Rotation.map_executed, Rotation.map_executed]
  rfl

/-! ## Different rotations -/

/-- A rotation about Y is the identity up to phase only by full turns. -/
theorem turn_y_eq_one_iff {degrees : Int} :
    system.turn .y degrees = 1 ↔ degrees % 360 = 0 := by
  constructor
  · intro identity
    obtain ⟨phase, scalar⟩ := (QuotientGroup.eq_one_iff _).mp identity
    change matrix .y (radians degrees) = phase • 1 at scalar
    have entry : sin (radians degrees / 2 : ℂ) = 0 := by
      simpa [matrix_eq, pauli] using congrFun (congrFun scalar 1) 0
    have vanishes : Real.sin (radians degrees / 2) = 0 := by exact_mod_cast entry
    obtain ⟨turns, eq⟩ := Real.sin_eq_zero_iff.mp vanishes
    have count : (degrees : ℝ) = ((360 * turns : Int) : ℝ) := by
      rw [radians] at eq
      have nonzero := Real.pi_ne_zero
      field_simp at eq
      push_cast
      linarith
    have whole : degrees = 360 * turns := by exact_mod_cast count
    omega
  · intro full
    rw [system.turn_congr .y (b := 0) full, RotationSystem.turn_zero]

theorem turn_y_eq_iff {a b : Int} : system.turn .y a = system.turn .y b ↔ a % 360 = b % 360 := by
  have difference : system.turn .y (a - b) = 1 ↔ system.turn .y a = system.turn .y b := by
    rw [Int.sub_eq_add_neg, system.turn_add, RotationSystem.turn_neg, mul_inv_eq_one]
  rw [← difference, turn_y_eq_one_iff]
  omega

end QubitRotation.Spin
