import Mathlib.Algebra.BigOperators.Group.List.Basic
import Mathlib.Algebra.Group.Hom.Defs
import Mathlib.Algebra.Group.Opposite
import Mathlib.Algebra.Group.TypeTags.Hom
import QubitRotation.Proofs.Reduction.Rewriting

/-!
# What a gate sequence performs

A reading sends each gate to an element of a monoid. A sequence is then a product, in one of two
orders. `Rotation.written` multiplies the gates as they stand. `Rotation.executed` is the operator
of executing them from left to right: operators act on the left, so each further gate is a factor
further left. Texts of circuits are in execution order; the two products differ.

A `RotationSystem` is a group with rotations about the three axes by whole degrees, in which
angles add, a full turn is nothing, and a half turn reverses the rotations about the two other
axes. Nothing else about rotations is used to reduce a sequence: `written_eq_of_rewrites` and
`executed_eq_of_rewrites` say that local rewrites keep both products. The second follows from the
first, since the opposite group is a rotation system too.
-/

namespace QubitRotation

open Reduction (Rewrite Rewrites)

namespace Rotation

variable {M N : Type*} [Monoid M] [Monoid N]

/-- The product of a sequence in the order in which it is written. -/
def written (reading : Gate → M) (gates : List Gate) : M := (gates.map reading).prod

/-- The operator of executing a sequence from left to right. -/
def executed (reading : Gate → M) (gates : List Gate) : M := (gates.reverse.map reading).prod

@[simp] theorem written_nil (reading : Gate → M) : written reading [] = 1 := rfl

@[simp] theorem written_cons (reading : Gate → M) (gate : Gate) (gates : List Gate) :
    written reading (gate :: gates) = reading gate * written reading gates :=
  List.prod_cons

theorem written_singleton (reading : Gate → M) (gate : Gate) :
    written reading [gate] = reading gate :=
  mul_one (reading gate)

@[simp] theorem written_append (reading : Gate → M) (first second : List Gate) :
    written reading (first ++ second) = written reading first * written reading second := by
  rw [written, List.map_append, List.prod_append, written, written]

@[simp] theorem executed_nil (reading : Gate → M) : executed reading [] = 1 := rfl

@[simp] theorem executed_cons (reading : Gate → M) (gate : Gate) (gates : List Gate) :
    executed reading (gate :: gates) = executed reading gates * reading gate := by
  rw [executed, List.reverse_cons, List.map_append, List.prod_append, List.map_singleton,
    List.prod_singleton, executed]

theorem executed_singleton (reading : Gate → M) (gate : Gate) :
    executed reading [gate] = reading gate :=
  mul_one (reading gate)

@[simp] theorem executed_append (reading : Gate → M) (first second : List Gate) :
    executed reading (first ++ second) = executed reading second * executed reading first := by
  rw [executed, List.reverse_append, List.map_append, List.prod_append, executed, executed]

theorem map_written (reading : Gate → M) (φ : M →* N) (gates : List Gate) :
    φ (written reading gates) = written (fun gate => φ (reading gate)) gates := by
  rw [written, map_list_prod, List.map_map]
  rfl

theorem map_executed (reading : Gate → M) (φ : M →* N) (gates : List Gate) :
    φ (executed reading gates) = executed (fun gate => φ (reading gate)) gates := by
  rw [executed, map_list_prod, List.map_map]
  rfl

/-- Executing from left to right multiplies as written in the opposite monoid. -/
theorem op_executed (reading : Gate → M) (gates : List Gate) :
    MulOpposite.op (executed reading gates) =
      written (fun gate => MulOpposite.op (reading gate)) gates := by
  induction gates with
  | nil => rfl
  | cons gate gates ih => rw [executed_cons, MulOpposite.op_mul, ih, written_cons]

end Rotation

/-- Rotations about the three axes by whole degrees, as elements of a group. -/
structure RotationSystem (G : Type*) [Group G] where
  /-- The rotation about an axis by a number of degrees. -/
  turn : Axis → Int → G
  /-- Rotations about one axis add their angles. -/
  turn_add : ∀ axis a b, turn axis (a + b) = turn axis a * turn axis b
  /-- A full turn changes nothing. -/
  turn_full : ∀ axis, turn axis 360 = 1
  /-- A half turn reverses the rotations about the other axes. -/
  turn_half : ∀ {axis mirror}, axis ≠ mirror → ∀ angle,
    turn mirror 180 * turn axis angle = turn axis (-angle) * turn mirror 180

namespace RotationSystem

variable {G : Type*} [Group G] (R : RotationSystem G)

/-! ## Angles modulo a full turn -/

@[simp] theorem turn_zero (axis : Axis) : R.turn axis 0 = 1 := by
  have twice := R.turn_add axis 0 0
  rw [Int.add_zero] at twice
  exact left_eq_mul.mp twice

theorem turn_neg (axis : Axis) (angle : Int) : R.turn axis (-angle) = (R.turn axis angle)⁻¹ := by
  apply eq_inv_of_mul_eq_one_left
  rw [← R.turn_add, Int.add_left_neg, turn_zero]

/-- The rotations about one axis form a copy of the integers. -/
def turnHom (axis : Axis) : Multiplicative Int →* G :=
  MonoidHom.mk' (fun angle => R.turn axis angle.toAdd) fun a b => R.turn_add axis a.toAdd b.toAdd

theorem turn_fullTurns (axis : Axis) (count : Int) : R.turn axis (count * 360) = 1 := by
  have power := (R.turnHom axis).map_zpow (.ofAdd 360) count
  change R.turn axis (count * 360) = R.turn axis 360 ^ count at power
  rwa [R.turn_full, one_zpow] at power

/-- Only the angle up to full turns matters. -/
theorem turn_congr (axis : Axis) {a b : Int} (congruent : a % 360 = b % 360) :
    R.turn axis a = R.turn axis b := by
  have split : a = (a / 360 - b / 360) * 360 + b := by omega
  rw [split, R.turn_add, turn_fullTurns, one_mul]

/-! ## Gates -/

/-- The rotation that a gate stands for. -/
def ofGate (gate : Gate) : G := R.turn gate.axis gate.angle.toInt

/-- The product of a sequence in the order in which it is written. -/
abbrev written (gates : List Gate) : G := Rotation.written R.ofGate gates

/-- The operator of executing a sequence from left to right. -/
abbrev executed (gates : List Gate) : G := Rotation.executed R.ofGate gates

theorem ofGate_fused {first second : Gate} (same : first.axis = second.axis) :
    R.ofGate (first.fused second) = R.ofGate first * R.ofGate second := by
  have congruent : (first.fused second).angle.toInt % 360 =
      (first.angle.toInt + second.angle.toInt) % 360 := by
    rw [Gate.fused_angle, Angle.toInt_plus, Int.emod_emod]
  rw [ofGate, R.turn_congr _ congruent, R.turn_add, Gate.fused_axis, ofGate, ofGate, same]

theorem ofGate_inverse (gate : Gate) :
    R.ofGate gate.inverse = R.turn gate.axis (-gate.angle.toInt) :=
  R.turn_congr gate.axis (Angle.toInt_opposite_emod gate.angle)

theorem ofGate_of_isIdentity {gate : Gate} (identity : gate.isIdentity = true) :
    R.ofGate gate = 1 := by
  rw [ofGate, R.turn_congr _ (b := 0) (Gate.isIdentity_iff.mp identity), turn_zero]

/-- A half turn passes a rotation about another axis and reverses it. -/
theorem ofGate_mul_half {left turn : Gate} (apart : left.axis ≠ turn.axis)
    (half : turn.isHalfTurn = true) :
    R.ofGate left * R.ofGate turn = R.ofGate turn * R.ofGate left.inverse := by
  have mirror : R.ofGate turn = R.turn turn.axis 180 :=
    R.turn_congr turn.axis (Gate.isHalfTurn_iff.mp half)
  rw [mirror, ofGate_inverse, R.turn_half apart, Int.neg_neg, ofGate]

/-! ## Rewriting -/

theorem written_eq_of_rewrite {before after : List Gate} (rewrite : Rewrite before after) :
    R.written after = R.written before := by
  induction rewrite with
  | fuse same rest => simp only [Rotation.written_cons, R.ofGate_fused same, mul_assoc]
  | swap apart half rest =>
      simp only [Rotation.written_cons, ← mul_assoc, R.ofGate_mul_half apart half]
  | drop identity rest =>
      simp only [Rotation.written_cons, R.ofGate_of_isIdentity identity, one_mul]
  | cons gate _ ih => simp only [Rotation.written_cons, ih]

/-- Local rewrites keep the product in written order. -/
theorem written_eq_of_rewrites {before after : List Gate} (rewrites : Rewrites before after) :
    R.written after = R.written before :=
  rewrites.preserves (motive := fun gates => R.written gates = R.written before)
    (fun _ _ rewrite kept => (R.written_eq_of_rewrite rewrite).trans kept) rfl

/-! ## The opposite system -/

/-- The same rotations with products taken the other way round. -/
def opposite : RotationSystem (MulOpposite G) where
  turn axis angle := .op (R.turn axis angle)
  turn_add axis a b := by rw [Int.add_comm, R.turn_add, MulOpposite.op_mul]
  turn_full axis := by rw [R.turn_full, MulOpposite.op_one]
  turn_half {axis mirror} apart angle := by
    rw [← MulOpposite.op_mul, ← MulOpposite.op_mul, R.turn_half apart, Int.neg_neg]

/-- Executing from left to right multiplies as written in the opposite system. -/
theorem op_executed (gates : List Gate) :
    MulOpposite.op (R.executed gates) = R.opposite.written gates :=
  Rotation.op_executed R.ofGate gates

/-- Local rewrites keep what executing a sequence from left to right performs. -/
theorem executed_eq_of_rewrites {before after : List Gate} (rewrites : Rewrites before after) :
    R.executed after = R.executed before := by
  apply MulOpposite.op_injective
  rw [op_executed, op_executed, R.opposite.written_eq_of_rewrites rewrites]

end RotationSystem

/-- A rotation system in which a rotation about Y is the one about X, seen from a frame that is
turned about Z by a quarter turn. -/
structure FramedSystem (G : Type*) [Group G] extends RotationSystem G where
  /-- The frame change, in written order. -/
  turn_y : ∀ angle, turn .y angle = turn .z 90 * turn .x angle * turn .z (-90)

end QubitRotation
