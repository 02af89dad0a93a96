import Mathlib.Data.List.MinMax
import Mathlib.Order.Nat
import QubitRotation.Proofs.Reduction.Rewriting

/-!
# Where the angles of a sequence come from

An angle is either kept as it was given or made anew. Fusing makes angles below a full turn, and
inverting negates: what it makes of an angle that was given is the negation of that angle, or, for
the least word, which has none, an angle below a full turn. So an angle is below a full turn in
size, or it is one that was given about the same axis, or its negation (`StemsFrom`). Local rewrites
keep that, hence so does every sequence on the way through a run.

No angle therefore outgrows the larger of a full turn less one and the largest angle that was given
(`angles_stem_from_input`).
-/

namespace QubitRotation

/-- What an angle may have come from, when it stands in a sequence that some gates have been reduced
to: it is below a full turn, or it is that of one of the gates about its axis, turned back or
not. -/
inductive StemsFrom (given : List Gate) (gate : Gate) : Prop
  | reduced (small : gate.angle.toInt.natAbs < 360)
  | kept {source : Gate} (member : source ∈ given) (about : source.axis = gate.axis)
      (same : gate.angle.toInt = source.angle.toInt)
  | turned {source : Gate} (member : source ∈ given) (about : source.axis = gate.axis)
      (opposite : gate.angle.toInt = -source.angle.toInt)

namespace StemsFrom

variable {given : List Gate} {gate : Gate}

theorem of_mem (member : gate ∈ given) : StemsFrom given gate := .kept member rfl rfl

theorem fused (given : List Gate) (first second : Gate) :
    StemsFrom given (first.fused second) := by
  apply StemsFrom.reduced
  rw [Gate.fused_angle, Angle.toInt_plus]
  omega

theorem inverse (stems : StemsFrom given gate) : StemsFrom given gate.inverse := by
  -- Only the least word is reduced before it is negated, as it has no negation of its own.
  by_cases least : gate.angle = Int64.minValue
  · apply StemsFrom.reduced
    rw [Gate.inverse_angle, Angle.toInt_opposite, if_pos least]
    omega
  · have negated : gate.inverse.angle.toInt = -gate.angle.toInt := by
      rw [Gate.inverse_angle, Angle.toInt_opposite, if_neg least]
    cases stems with
    | reduced small =>
        apply StemsFrom.reduced
        rwa [negated, Int.natAbs_neg]
    | kept member about same =>
        refine .turned member (about.trans gate.inverse_axis.symm) ?_
        rw [negated, same]
    | turned member about opposite =>
        refine .kept member (about.trans gate.inverse_axis.symm) ?_
        rw [negated, opposite, Int.neg_neg]

end StemsFrom

namespace Reduction

/-- What local rewrites lead to from gates that stem from the given ones stems from these too. -/
theorem Rewrites.stemsFrom {given before after : List Gate} (rewrites : Rewrites before after)
    (start : ∀ gate ∈ before, StemsFrom given gate) : ∀ gate ∈ after, StemsFrom given gate :=
  rewrites.forall_mem (P := StemsFrom given) (fun first second _ _ _ => .fused given first second)
    (fun _ stems => stems.inverse) start

end Reduction

/-! ## Replaced rotations about Y -/

/-- The gate, with its angle counted about X if it turns about Y. -/
def Gate.counted (gate : Gate) : Gate :=
  match gate.axis with
  | .y => .x gate.angle
  | .x | .z => gate

@[simp] theorem Gate.counted_angle (gate : Gate) : gate.counted.angle = gate.angle := by
  obtain ⟨axis, angle⟩ := gate
  cases axis <;> rfl

/-- What stands in for a gate are its own angle, about X for a rotation about Y, and quarter
turns. -/
theorem Reduction.stemsFrom_expand {given : List Gate} {gate : Gate}
    (member : gate.counted ∈ given) : ∀ part ∈ expand gate, StemsFrom given part := by
  obtain ⟨axis, angle⟩ := gate
  cases axis with
  | x => exact List.forall_mem_singleton.mpr (.of_mem member)
  | y =>
      have quarter : StemsFrom given (.z Angle.quarterTurn) := .reduced (by decide)
      have back : StemsFrom given (.z (-Angle.quarterTurn)) := .reduced (by decide)
      intro part inside
      simp only [expand, expandY, List.mem_cons, List.not_mem_nil, or_false] at inside
      obtain rfl | rfl | rfl := inside
      · exact quarter
      · exact .of_mem member
      · exact back
  | z => exact List.forall_mem_singleton.mpr (.of_mem member)

theorem Reduction.stemsFrom_expandAll (gates : List Gate) :
    ∀ part ∈ expandAll gates, StemsFrom (gates.map Gate.counted) part := by
  intro part member
  obtain ⟨gate, present, inside⟩ := List.mem_flatMap.mp member
  exact stemsFrom_expand (List.mem_map_of_mem present) part inside

/-! ## The largest angle -/

/-- The size of the largest angle. -/
def largestAngle (gates : List Gate) : Nat := (gates.map (·.angle.toInt.natAbs)).foldr max 0

theorem natAbs_le_largestAngle {gates : List Gate} {gate : Gate} (member : gate ∈ gates) :
    gate.angle.toInt.natAbs ≤ largestAngle gates :=
  List.le_max_of_le (List.mem_map_of_mem member) (Nat.le_refl _)

theorem largestAngle_counted (gates : List Gate) :
    largestAngle (gates.map Gate.counted) = largestAngle gates := by
  rw [largestAngle, List.map_map]
  simp only [Function.comp_def, Gate.counted_angle]
  rfl

theorem StemsFrom.natAbs_le {given : List Gate} {gate : Gate} (stems : StemsFrom given gate) :
    gate.angle.toInt.natAbs ≤ max 359 (largestAngle given) := by
  cases stems with
  | reduced small => exact le_max_of_le_left (Nat.le_of_lt_succ small)
  | kept member _ same =>
      rw [same]
      exact le_max_of_le_right (natAbs_le_largestAngle member)
  | turned member _ opposite =>
      rw [opposite, Int.natAbs_neg]
      exact le_max_of_le_right (natAbs_le_largestAngle member)

theorem largestAngle_le_of_stemsFrom {given gates : List Gate}
    (stem : ∀ gate ∈ gates, StemsFrom given gate) :
    largestAngle gates ≤ max 359 (largestAngle given) := by
  apply List.max_le_of_forall_le
  intro size member
  obtain ⟨gate, present, rfl⟩ := List.mem_map.mp member
  exact (stem gate present).natAbs_le

open Reduction

/-- Every angle in a sequence that a run leaves is below a full turn in size, or is exactly that of
an input gate about the same axis, or its negation. For a native run the rotations about Y count
among those about X. No angle is larger than a full turn less one and the largest angle of the
input. It is the same with every sequence that local rewrites lead to, hence with every sequence on
the way, those at which a run stops that has any number of iterations to go. Each sum and each
negation on the way is the one of the integers, so none of them leaves the range of 64 bits. -/
theorem angles_stem_from_input (factor : Nat) (gates : List Gate) :
    (∀ gate ∈ (run factor gates).gates, StemsFrom gates gate) ∧
    (∀ gate ∈ (runNative factor gates).gates, StemsFrom (gates.map Gate.counted) gate) ∧
    largestAngle (run factor gates).gates ≤ max 359 (largestAngle gates) ∧
    largestAngle (runNative factor gates).gates ≤ max 359 (largestAngle gates) ∧
    (∀ between, Rewrites gates between →
      (∀ gate ∈ between, StemsFrom gates gate) ∧
        largestAngle between ≤ max 359 (largestAngle gates)) ∧
    (∀ between, Rewrites (expandAll gates) between →
      (∀ gate ∈ between, StemsFrom (gates.map Gate.counted) gate) ∧
        largestAngle between ≤ max 359 (largestAngle gates)) ∧
    (∀ remaining tally, Rewrites gates (runFrom remaining tally gates).gates ∧
      Rewrites (expandAll gates) (runFrom remaining tally (expandAll gates)).gates) ∧
    (∀ a b : Angle, (a.normalize + b.normalize).toInt = a.normalize.toInt + b.normalize.toInt) ∧
    ∀ a : Angle, a.opposite.toInt =
      if a = Int64.minValue then -a.normalize.toInt else -a.toInt := by
  have onTheWay (between : List Gate) (rewrites : Rewrites gates between) :
      (∀ gate ∈ between, StemsFrom gates gate) ∧
        largestAngle between ≤ max 359 (largestAngle gates) := by
    have stem := rewrites.stemsFrom fun _ => StemsFrom.of_mem
    exact ⟨stem, largestAngle_le_of_stemsFrom stem⟩
  have onTheNativeWay (between : List Gate) (rewrites : Rewrites (expandAll gates) between) :
      (∀ gate ∈ between, StemsFrom (gates.map Gate.counted) gate) ∧
        largestAngle between ≤ max 359 (largestAngle gates) := by
    have stem := rewrites.stemsFrom (stemsFrom_expandAll gates)
    have bound := largestAngle_le_of_stemsFrom stem
    rw [largestAngle_counted] at bound
    exact ⟨stem, bound⟩
  obtain ⟨stem, bound⟩ := onTheWay _ (rewrites_run factor gates)
  obtain ⟨nativeStem, nativeBound⟩ := onTheNativeWay _ (rewrites_runNative factor gates)
  refine ⟨stem, nativeStem, bound, nativeBound, onTheWay, onTheNativeWay, ?stopped,
    Angle.toInt_normalize_add, ?negation⟩
  case stopped =>
    intro remaining tally
    exact ⟨rewrites_runFrom remaining tally gates, rewrites_runFrom remaining tally _⟩
  case negation =>
    intro a
    rw [Angle.toInt_normalize]
    exact Angle.toInt_opposite a

/-- Half turns carry the greatest angle across, negated, and replace the least. The rotation about Y
keeps its angle about X. -/
theorem angles_stem_from_input_of_extremes :
    let gates : List Gate := [.y 9223372036854775807, .z 180, .y 540]
    let least : List Gate := [.x (-9223372036854775808), .z 180, .x 5]
    let turn : List Gate := [.y (-9223372036854775808)]
    (Gate.y (-9223372036854775807) ∈ [Gate.z 180, .y (-9223372036854775807), .y 540] ∧
      Rewrites gates [.z 180, .y (-9223372036854775807), .y 540] ∧
      StemsFrom gates (.y (-9223372036854775807))) ∧
    (Gate.x 13 ∈ (run 1 least).gates ∧ StemsFrom least (.x 13)) ∧
    Gate.x (-9223372036854775808) ∈ (runNative 1 turn).gates ∧
      StemsFrom (turn.map Gate.counted) (.x (-9223372036854775808)) := by
  intro gates least turn
  have crossed : Rewrites gates [.z 180, .y (-9223372036854775807), .y 540] :=
    .single (.swap (by decide) (by decide) [.y 540])
  have among : Gate.y (-9223372036854775807) ∈
      [Gate.z 180, .y (-9223372036854775807), .y 540] := by decide
  have left : Gate.x 13 ∈ (run 1 least).gates := by decide
  have replaced : Gate.x (-9223372036854775808) ∈ (runNative 1 turn).gates := by decide
  have stems := ((angles_stem_from_input 1 gates).2.2.2.2.1 _ crossed).1 _ among
  exact ⟨⟨among, crossed, stems⟩, ⟨left, (angles_stem_from_input 1 least).1 _ left⟩, replaced,
    (angles_stem_from_input 1 turn).2.1 _ replaced⟩

end QubitRotation
