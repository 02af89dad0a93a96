import QubitRotation.Proofs.Rotation.Spin

/-!
# What the native form performs

A rotation about Y is replaced by a quarter turn about Z, the same turn about X, and the quarter
turn back. As a product in written order the three gates are the rotation about Y. Executed from
left to right the frame is changed the other way round, and they are the rotation about Y by the
opposite angle (`turn_y_neg`). The reduction that follows keeps both products.

So a native run keeps the product of a sequence in written order, and what it performs is the
sequence with every rotation about Y reversed (`native_products`). It therefore performs what the
sequence does only where that reversal does not show; for a single rotation about Y these are the
multiples of a half turn (`native_keeps_rotation_iff`).
-/

namespace QubitRotation

open Reduction

universe u

/-- The gate with a rotation about Y reversed. Rotations about X and Z stay as they are. -/
def Gate.reverseY (gate : Gate) : Gate := if gate.axis = .y then gate.inverse else gate

theorem Gate.reverseY_of_eq {gate : Gate} (about : gate.axis = .y) : gate.reverseY = gate.inverse :=
  if_pos about

theorem Gate.reverseY_of_ne {gate : Gate} (other : gate.axis ≠ .y) : gate.reverseY = gate :=
  if_neg other

namespace FramedSystem

variable {G : Type*} [Group G] (F : FramedSystem G)

/-- Changing the frame the other way round reverses the rotation about Y, since the two frames
are a half turn about Z apart. -/
theorem turn_y_neg (angle : Int) :
    F.turn .y (-angle) = F.turn .z (-90) * F.turn .x angle * F.turn .z 90 := by
  have before : F.turn .z 90 = F.turn .z (-90) * F.turn .z 180 := by
    rw [← F.turn_add]
    rfl
  have after : F.turn .z 90 = F.turn .z 180 * F.turn .z (-90) := by
    rw [← F.turn_add]
    rfl
  calc F.turn .y (-angle)
      = F.turn .z 90 * F.turn .x (-angle) * F.turn .z (-90) := F.turn_y (-angle)
    _ = F.turn .z (-90) * (F.turn .z 180 * F.turn .x (-angle)) * F.turn .z (-90) := by
        rw [before, mul_assoc (F.turn .z (-90))]
    _ = F.turn .z (-90) * (F.turn .x angle * F.turn .z 180) * F.turn .z (-90) := by
        rw [F.turn_half (by decide), Int.neg_neg]
    _ = F.turn .z (-90) * F.turn .x angle * F.turn .z 90 := by
        rw [after, mul_assoc, mul_assoc, mul_assoc]

/-! ## Replacing Y rotations -/

theorem written_expandY (angle : Angle) : F.written (expandY angle) = F.turn .y angle.toInt := by
  have back : (-Angle.quarterTurn).toInt = -90 := by decide
  simp only [expandY, Rotation.written_cons, Rotation.written_nil, mul_one,
    RotationSystem.ofGate, Gate.z, Gate.x, back]
  exact (mul_assoc _ _ _).symm.trans (F.turn_y angle.toInt).symm

theorem executed_expandY (angle : Angle) :
    F.executed (expandY angle) = F.turn .y (-angle.toInt) := by
  have back : (-Angle.quarterTurn).toInt = -90 := by decide
  simp only [expandY, Rotation.executed_cons, Rotation.executed_nil, one_mul,
    RotationSystem.ofGate, Gate.z, Gate.x, back]
  exact (F.turn_y_neg angle.toInt).symm

theorem written_expand (gate : Gate) : F.written (expand gate) = F.ofGate gate := by
  obtain ⟨axis, angle⟩ := gate
  cases axis with
  | x => exact Rotation.written_singleton _ _
  | y => exact F.written_expandY angle
  | z => exact Rotation.written_singleton _ _

theorem executed_expand (gate : Gate) : F.executed (expand gate) = F.ofGate gate.reverseY := by
  obtain ⟨axis, angle⟩ := gate
  cases axis with
  | x => exact Rotation.executed_singleton _ _
  | y =>
      rw [Gate.reverseY_of_eq rfl, F.ofGate_inverse]
      exact F.executed_expandY angle
  | z => exact Rotation.executed_singleton _ _

theorem written_expandAll (gates : List Gate) : F.written (expandAll gates) = F.written gates := by
  induction gates with
  | nil => rfl
  | cons gate gates ih =>
      rw [expandAll_cons]
      simp only [Rotation.written_append, Rotation.written_cons, F.written_expand, ih]

theorem executed_expandAll (gates : List Gate) :
    F.executed (expandAll gates) = F.executed (gates.map Gate.reverseY) := by
  induction gates with
  | nil => rfl
  | cons gate gates ih =>
      rw [expandAll_cons, List.map_cons]
      simp only [Rotation.executed_append, Rotation.executed_cons, F.executed_expand, ih]

/-! ## Native runs -/

theorem written_runNative (factor : Nat) (gates : List Gate) :
    F.written (runNative factor gates).gates = F.written gates :=
  (F.written_eq_of_rewrites (rewrites_runNative factor gates)).trans (F.written_expandAll gates)

theorem executed_runNative (factor : Nat) (gates : List Gate) :
    F.executed (runNative factor gates).gates = F.executed (gates.map Gate.reverseY) :=
  (F.executed_eq_of_rewrites (rewrites_runNative factor gates)).trans (F.executed_expandAll gates)

end FramedSystem

/-! ## Where the reversal does not show -/

/-- Reversing changes nothing if it only meets rotations about Y by multiples of a half turn. -/
theorem RotationSystem.executed_map_reverseY {G : Type*} [Group G] (R : RotationSystem G)
    {gates : List Gate}
    (halves : ∀ gate ∈ gates, gate.axis = .y → gate.angle.toInt % 180 = 0) :
    R.executed (gates.map Gate.reverseY) = R.executed gates := by
  have kept (gate : Gate) (member : gate ∈ gates) :
      R.ofGate gate.reverseY = R.ofGate gate := by
    by_cases about : gate.axis = .y
    · have half := halves gate member about
      rw [Gate.reverseY_of_eq about, R.ofGate_inverse, ofGate]
      exact R.turn_congr gate.axis (by omega)
    · rw [Gate.reverseY_of_ne about]
  rw [executed, executed, Rotation.executed, Rotation.executed, ← List.map_reverse, List.map_map]
  congr 1
  exact List.map_congr_left fun gate member => kept gate (List.mem_reverse.mp member)

namespace Spin

/-- One rotation about Y, among others that reversing does not change, gives the reversal away
unless it is by a multiple of a half turn too. -/
theorem executed_map_reverseY_iff {before after : List Gate} {angle : Angle}
    (halves : ∀ gate ∈ before ++ after, gate.axis = .y → gate.angle.toInt % 180 = 0) :
    system.executed ((before ++ .y angle :: after).map Gate.reverseY) =
        system.executed (before ++ .y angle :: after) ↔
      angle.toInt % 180 = 0 := by
  have first := system.executed_map_reverseY fun gate member =>
    halves gate (List.mem_append_left after member)
  have last := system.executed_map_reverseY fun gate member =>
    halves gate (List.mem_append_right before member)
  have reversed : system.ofGate (Gate.y angle).reverseY = system.turn .y (-angle.toInt) :=
    system.ofGate_inverse (.y angle)
  simp only [List.map_append, List.map_cons, Rotation.executed_append, Rotation.executed_cons,
    first, last, reversed]
  rw [mul_left_inj, mul_right_inj]
  change system.turn .y (-angle.toInt) = system.turn .y angle.toInt ↔ _
  rw [turn_y_eq_iff]
  omega

theorem executed_runNative_iff (factor : Nat) (gates : List Gate) :
    SameUpToPhase (executed (runNative factor gates).gates) (executed gates) ↔
      system.executed (gates.map Gate.reverseY) = system.executed gates := by
  rw [sameUpToPhase_executed, system.executed_runNative]

theorem executed_expandY_iff (angle : Angle) :
    SameUpToPhase (executed (expandY angle)) (executed [.y angle]) ↔ angle.toInt % 180 = 0 := by
  have single : system.executed [.y angle] = system.turn .y angle.toInt :=
    Rotation.executed_singleton _ _
  rw [sameUpToPhase_executed, system.executed_expandY, single, turn_y_eq_iff]
  omega

end Spin

open Spin (SameUpToPhase)

/-- The meaning of native reduction, whatever the outcome of the run: the product in written order
stays, and executed from left to right the result performs the sequence with every rotation about
Y reversed. It holds by the laws of framed systems alone, and on a qubit up to global phase. -/
theorem native_products (factor : Nat) (gates : List Gate) :
    (∀ (G : Type u) [Group G] (F : FramedSystem G),
      F.written (runNative factor gates).gates = F.written gates ∧
      F.executed (runNative factor gates).gates = F.executed (gates.map Gate.reverseY)) ∧
    SameUpToPhase (Spin.written (runNative factor gates).gates) (Spin.written gates) ∧
    SameUpToPhase (Spin.executed (runNative factor gates).gates)
      (Spin.executed (gates.map Gate.reverseY)) := by
  refine ⟨fun G _ F => ⟨F.written_runNative factor gates, F.executed_runNative factor gates⟩,
    ?written, ?executed⟩
  case written => exact Spin.sameUpToPhase_written.mpr (Spin.system.written_runNative factor gates)
  case executed =>
    exact Spin.sameUpToPhase_executed.mpr (Spin.system.executed_runNative factor gates)

/-- When native reduction keeps what a sequence performs on a qubit: exactly if reversing its
rotations about Y keeps it. That is so if they are all by multiples of a half turn; if they are
except for one, it depends on that one. The replacement of a single rotation about Y performs it
exactly if it is by a multiple of a half turn. -/
theorem native_keeps_rotation_iff (factor : Nat) (gates : List Gate) :
    (SameUpToPhase (Spin.executed (runNative factor gates).gates) (Spin.executed gates) ↔
      SameUpToPhase (Spin.executed (gates.map Gate.reverseY)) (Spin.executed gates)) ∧
    ((∀ gate ∈ gates, gate.axis = .y → gate.angle.toInt % 180 = 0) →
      SameUpToPhase (Spin.executed (runNative factor gates).gates) (Spin.executed gates)) ∧
    (∀ before angle after, gates = before ++ .y angle :: after →
      (∀ gate ∈ before ++ after, gate.axis = .y → gate.angle.toInt % 180 = 0) →
      (SameUpToPhase (Spin.executed (runNative factor gates).gates) (Spin.executed gates) ↔
        angle.toInt % 180 = 0)) ∧
    ∀ angle, SameUpToPhase (Spin.executed (expandY angle)) (Spin.executed [.y angle]) ↔
      angle.toInt % 180 = 0 := by
  refine ⟨?reversed, ?halves, ?single, Spin.executed_expandY_iff⟩
  case reversed => rw [Spin.executed_runNative_iff, Spin.sameUpToPhase_executed]
  case halves =>
    intro halves
    rw [Spin.executed_runNative_iff]
    exact Spin.system.executed_map_reverseY halves
  case single =>
    rintro before angle after rfl halves
    rw [Spin.executed_runNative_iff]
    exact Spin.executed_map_reverseY_iff halves

/-- A half turn about Y stays what it is. With a quarter turn about Y after it, the sequence as a
whole does not. -/
theorem native_keeps_rotation_of_half_turn :
    let gates : List Gate := [.x 30, .y 180, .z 45]
    (∀ gate ∈ gates, gate.axis = .y → gate.angle.toInt % 180 = 0) ∧
    SameUpToPhase (Spin.executed (runNative 4 gates).gates) (Spin.executed gates) ∧
    ¬SameUpToPhase (Spin.executed (runNative 4 (gates ++ [.y 90])).gates)
      (Spin.executed (gates ++ [.y 90])) := by
  intro gates
  have halves : ∀ gate ∈ gates, gate.axis = .y → gate.angle.toInt % 180 = 0 := by decide
  have quarter : ¬(90 : Angle).toInt % 180 = 0 := by decide
  have single := (native_keeps_rotation_iff 4 (gates ++ [.y 90])).2.2.1 gates 90 [] rfl
    (by rwa [List.append_nil])
  exact ⟨halves, (native_keeps_rotation_iff 4 gates).2.1 halves, mt single.mp quarter⟩

/-- A quarter turn about Y becomes three gates that perform the quarter turn back. -/
theorem native_reverses_quarter_turn :
    (runNative 4 [.y 90]).gates = [.z 90, .x 90, .z (-90)] ∧
    ¬SameUpToPhase (Spin.executed (runNative 4 [.y 90]).gates) (Spin.executed [.y 90]) := by
  refine ⟨by decide +kernel, ?_⟩
  have quarter : ¬(90 : Angle).toInt % 180 = 0 := by decide
  have others : ∀ gate ∈ ([] ++ [] : List Gate), gate.axis = .y → gate.angle.toInt % 180 = 0 :=
    nofun
  rw [Spin.executed_runNative_iff]
  exact mt (Spin.executed_map_reverseY_iff others).mp quarter

end QubitRotation
