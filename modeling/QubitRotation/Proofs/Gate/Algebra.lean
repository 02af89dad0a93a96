import Mathlib.Algebra.BigOperators.Group.List.Basic
import QubitRotation.Proofs.Reduction.Merging
import QubitRotation.Proofs.Results

/-!
# The algebra of gates

Angles are any 64-bit numbers, and yet nothing about them is ever lost. Fusing reduces both angles
before it adds them, so the sum it forms is the sum of integers. Turning back negates an angle, and
the one angle without a negation is reduced before (`Angle.opposite_opposite_iff` tells it from the
others).

The exact sum depends neither on the order of the gates nor on which two are fused first.
`Grouping` is any way to fuse gates into one, with given and reduced angles side by side. It comes
to what the same gates become as a run (`Grouping.fuse_eq_ok_iff`), and a run becomes the same gate
in any order (`FusesTo.perm`).

`angle_algebra_exact` is the summary.
-/

namespace QubitRotation

/-! ## Turning back -/

namespace Angle

variable {angle : Angle}

theorem opposite_opposite (ne : angle ≠ Int64.minValue) : opposite (opposite angle) = angle := by
  have back : (opposite angle).toInt = -angle.toInt := by rw [toInt_opposite, if_neg ne]
  have notLeast : opposite angle ≠ Int64.minValue := by
    intro least
    have bound := angle.toInt_lt
    rw [least, Int64.toInt_minValue] at back
    omega
  rw [← Int64.toInt_inj, toInt_opposite, if_neg notLeast, back, Int.neg_neg]

/-- Only the least angle is not found again, since it was reduced on the way. -/
theorem opposite_opposite_iff : opposite (opposite angle) = angle ↔ angle ≠ Int64.minValue := by
  refine ⟨?found, opposite_opposite⟩
  case found =>
    rintro again rfl
    have reduced : opposite (opposite Int64.minValue) = 352 := by decide
    cases reduced.symm.trans again

/-- It is the same rotation all the same. -/
theorem toInt_opposite_opposite_emod (angle : Angle) :
    (opposite (opposite angle)).toInt % 360 = angle.toInt % 360 := by
  have back := toInt_opposite_emod angle
  have again := toInt_opposite_emod (opposite angle)
  omega

/-- A turn and the turn back add up to nothing. -/
theorem plus_opposite (angle : Angle) : plus angle (opposite angle) = 0 := by
  have back := toInt_opposite_emod angle
  rw [← Int64.toInt_inj, toInt_plus, Int64.toInt_zero]
  omega

end Angle

namespace Gate

variable {first second gate : Gate} {fault : Fault}

theorem inverse_inverse_iff : gate.inverse.inverse = gate ↔ gate.angle ≠ Int64.minValue := by
  obtain ⟨axis, angle⟩ := gate
  rw [← Angle.opposite_opposite_iff]
  simp [inverse]

/-! ## Fusing two gates -/

theorem eq_fused_iff : gate = first.fused second ↔ gate.axis = first.axis ∧
    gate.angle.toInt = (first.angle.toInt + second.angle.toInt) % 360 := by
  obtain ⟨axis, angle⟩ := gate
  rw [← Angle.toInt_plus, Int64.toInt_inj, fused, mk.injEq]

theorem fuse_eq_ok_iff :
    first.fuse second = .ok gate ↔ first.axis = second.axis ∧ gate = first.fused second := by
  by_cases same : first.axis = second.axis
  · rw [fuse_of_axis_eq same, Except.ok.injEq]
    exact ⟨fun fused => ⟨same, fused.symm⟩, fun fused => fused.2.symm⟩
  · rw [fuse_of_axis_ne same]
    exact ⟨nofun, fun fused => absurd fused.1 same⟩

theorem fuse_eq_error_iff :
    first.fuse second = .error fault ↔
      first.axis ≠ second.axis ∧ fault = .incompatibleAxes first.axis second.axis := by
  by_cases same : first.axis = second.axis
  · rw [fuse_of_axis_eq same]
    exact ⟨nofun, fun refused => absurd same refused.1⟩
  · rw [fuse_of_axis_ne same, Except.error.injEq]
    exact ⟨fun refused => ⟨same, refused.symm⟩, fun refused => refused.2.symm⟩

/-- A gate and the gate back fuse to one that does nothing. -/
theorem fuse_inverse (gate : Gate) :
    ∃ fused, gate.fuse gate.inverse = .ok fused ∧ fused.isIdentity = true := by
  refine ⟨_, fuse_of_axis_eq gate.inverse_axis.symm, ?_⟩
  rw [inverse_angle, Angle.plus_opposite]
  rfl

end Gate

/-! ## Fusing in any order -/

namespace Reduction.FusesTo

variable {run others : List Gate} {gate other : Gate}

/-- A run becomes one gate only. -/
theorem unique (fuses : FusesTo run gate) (again : FusesTo run other) : gate = other := by
  cases fuses with
  | lone =>
      cases again with
      | lone => rfl
      | sum several => simp at several
  | sum several about turns =>
      cases again with
      | lone => simp at several
      | sum _ alsoAbout alsoTurns =>
          obtain ⟨part, member⟩ := List.exists_mem_of_length_pos (Nat.lt_of_succ_lt several)
          have axes : gate.axis = other.axis :=
            (about part member).symm.trans (alsoAbout part member)
          have angles : gate.angle = other.angle :=
            Int64.toInt_inj.mp (turns.trans alsoTurns.symm)
          obtain ⟨axis, angle⟩ := gate
          cases axes
          cases angles
          rfl

/-- In any order it becomes the same gate. -/
theorem perm (fuses : FusesTo run gate) (reordered : run.Perm others) : FusesTo others gate := by
  cases fuses with
  | lone =>
      rw [List.perm_singleton.mp reordered.symm]
      exact .lone gate
  | sum several about turns =>
      refine .sum (several.trans_eq reordered.length_eq) ?about (turns.trans ?turns)
      case about => exact fun part member => about part (reordered.mem_iff.mpr member)
      case turns => rw [(reordered.map _).sum_eq]

/-- By the exact sum of the angles, if there is more than one. -/
theorem toInt_eq (fuses : FusesTo run gate) (several : 2 ≤ run.length) :
    gate.angle.toInt = (run.map (·.angle.toInt)).sum % 360 := by
  cases fuses with
  | lone => simp at several
  | sum _ _ turns => exact turns

end Reduction.FusesTo

open Reduction (FusesTo)

/-- A way to fuse gates into one: a gate as it is, or what two such ways come to, fused. -/
inductive Grouping
  | lone (gate : Gate)
  | pair (left right : Grouping)

namespace Grouping

/-- The gates that are fused, from left to right. -/
def gates : Grouping → List Gate
  | lone gate => [gate]
  | pair left right => left.gates ++ right.gates

/-- The gate that they are fused to. -/
def fuse : Grouping → Except Fault Gate
  | lone gate => .ok gate
  | pair left right => do
      let first ← left.fuse
      let second ← right.fuse
      first.fuse second

variable {grouping other : Grouping} {gate : Gate}

theorem fusesTo_of_fuse (fused : grouping.fuse = .ok gate) : FusesTo grouping.gates gate := by
  induction grouping generalizing gate with
  | lone single =>
      cases fused
      exact .lone single
  | pair left right ihLeft ihRight =>
      obtain ⟨first, ofLeft, rest⟩ := Except.bind_eq_ok_iff.mp fused
      obtain ⟨second, ofRight, last⟩ := Except.bind_eq_ok_iff.mp rest
      obtain ⟨same, rfl⟩ := Gate.fuse_eq_ok_iff.mp last
      exact (ihLeft ofLeft).append (ihRight ofRight) same

theorem exists_fuse {axis : Axis} (about : ∀ gate ∈ grouping.gates, gate.axis = axis) :
    ∃ gate, grouping.fuse = .ok gate ∧ gate.axis = axis := by
  induction grouping with
  | lone gate => exact ⟨gate, rfl, about gate (List.mem_singleton_self gate)⟩
  | pair left right ihLeft ihRight =>
      obtain ⟨aboutLeft, aboutRight⟩ := List.forall_mem_append.mp about
      obtain ⟨first, ofLeft, firstAxis⟩ := ihLeft aboutLeft
      obtain ⟨second, ofRight, secondAxis⟩ := ihRight aboutRight
      have same : first.axis = second.axis := firstAxis.trans secondAxis.symm
      have fused : (pair left right).fuse = first.fuse second := by
        rw [fuse, ofLeft, ofRight]
        rfl
      exact ⟨_, fused.trans (Gate.fuse_of_axis_eq same), firstAxis⟩

/-- However gates are grouped, they are fused to what they become as a run. -/
theorem fuse_eq_ok_iff : grouping.fuse = .ok gate ↔ FusesTo grouping.gates gate := by
  refine ⟨fusesTo_of_fuse, fun fuses => ?_⟩
  obtain ⟨found, fused, _⟩ := exists_fuse fuses.axis_eq
  rw [fused, (fusesTo_of_fuse fused).unique fuses]

theorem fuse_of_perm (fused : grouping.fuse = .ok gate)
    (reordered : grouping.gates.Perm other.gates) : other.fuse = .ok gate :=
  fuse_eq_ok_iff.mpr ((fuse_eq_ok_iff.mp fused).perm reordered)

end Grouping

/-- The algebra of gates is exact for all 64-bit angles. Two gates fuse if and only if they turn
about one axis, by the sum of their angles modulo a full turn, and no sum on the way is cut off.
Two or more gates about one axis fuse to the same gate in any order and with any brackets. The gate
back is found for every angle, undoes the gate, and leads back to it: to the same rotation, and to
the same angle but for the least one. -/
theorem angle_algebra_exact :
    (∀ first second gate : Gate, first.fuse second = .ok gate ↔
      first.axis = second.axis ∧ gate.axis = first.axis ∧
        gate.angle.toInt = (first.angle.toInt + second.angle.toInt) % 360) ∧
    (∀ (first second : Gate) fault, first.fuse second = .error fault ↔
      first.axis ≠ second.axis ∧ fault = .incompatibleAxes first.axis second.axis) ∧
    (∀ a b : Angle, a.normalize.toInt = a.toInt % 360 ∧
      (a.normalize + b.normalize).toInt = a.normalize.toInt + b.normalize.toInt) ∧
    (∀ (grouping other : Grouping) axis, 2 ≤ grouping.gates.length →
      (∀ gate ∈ grouping.gates, gate.axis = axis) → grouping.gates.Perm other.gates →
      ∃ gate, grouping.fuse = .ok gate ∧ other.fuse = .ok gate ∧ gate.axis = axis ∧
        gate.angle.toInt = (grouping.gates.map (·.angle.toInt)).sum % 360) ∧
    ∀ gate : Gate, gate.inverse.axis = gate.axis ∧
      gate.inverse.angle.toInt =
        (if gate.angle = Int64.minValue then -(gate.angle.toInt % 360) else -gate.angle.toInt) ∧
      gate.inverse.angle.toInt % 360 = (-gate.angle.toInt) % 360 ∧
      gate.inverse.inverse.angle.toInt % 360 = gate.angle.toInt % 360 ∧
      (gate.inverse.inverse = gate ↔ gate.angle ≠ Int64.minValue) ∧
      ∃ fused, gate.fuse gate.inverse = .ok fused ∧ fused.isIdentity = true := by
  refine ⟨?fused, ?refused, ?unbounded, ?grouped, ?back⟩
  case fused =>
    intro first second gate
    rw [Gate.fuse_eq_ok_iff, Gate.eq_fused_iff]
  case refused =>
    intro first second fault
    exact Gate.fuse_eq_error_iff
  case unbounded =>
    intro a b
    exact ⟨a.toInt_normalize, a.toInt_normalize_add b⟩
  case grouped =>
    intro grouping other axis several about reordered
    obtain ⟨gate, fused, gateAxis⟩ := Grouping.exists_fuse about
    have turns := (Grouping.fusesTo_of_fuse fused).toInt_eq several
    exact ⟨gate, fused, Grouping.fuse_of_perm fused reordered, gateAxis, turns⟩
  case back =>
    intro gate
    exact ⟨rfl, gate.angle.toInt_opposite, gate.angle.toInt_opposite_emod,
      gate.angle.toInt_opposite_opposite_emod, Gate.inverse_inverse_iff, gate.fuse_inverse⟩

/-- Both ends of the range, in two orders and with two ways to set the brackets. -/
theorem angle_algebra_exact_of_extremes :
    let least := Gate.x (-9223372036854775808)
    let greatest := Gate.x 9223372036854775807
    let grouping := Grouping.pair (.pair (.lone least) (.lone greatest)) (.lone (.x 540))
    let other := Grouping.pair (.lone (.x 540)) (.pair (.lone greatest) (.lone least))
    (2 ≤ grouping.gates.length ∧ (∀ gate ∈ grouping.gates, gate.axis = .x) ∧
      grouping.gates.Perm other.gates ∧
      ∃ gate, grouping.fuse = .ok gate ∧ other.fuse = .ok gate ∧ gate.axis = .x ∧
        gate.angle.toInt = 179) ∧
    least.inverse.inverse ≠ least ∧ greatest.inverse.inverse = greatest := by
  intro least greatest grouping other
  have several : 2 ≤ grouping.gates.length := by decide
  have about : ∀ gate ∈ grouping.gates, gate.axis = .x := by decide
  have reordered : grouping.gates.Perm other.gates := (List.reverse_perm grouping.gates).symm
  have total : (grouping.gates.map (·.angle.toInt)).sum % 360 = 179 := by decide
  obtain ⟨_, _, _, grouped, back⟩ := angle_algebra_exact
  obtain ⟨gate, fused, alsoFused, gateAxis, turns⟩ :=
    grouped grouping other .x several about reordered
  obtain ⟨_, _, _, _, lost, _⟩ := back least
  obtain ⟨_, _, _, _, found, _⟩ := back greatest
  exact ⟨⟨several, about, reordered, gate, fused, alsoFused, gateAxis, turns.trans total⟩,
    mt lost.mp (by decide), found.mpr (by decide)⟩

end QubitRotation
