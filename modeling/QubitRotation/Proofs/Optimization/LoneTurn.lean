import QubitRotation.Proofs.Optimization.Outcome
import QubitRotation.Proofs.Reduction.Cutoff
import QubitRotation.Proofs.Reduction.FixedPoint

/-!
# A lone rotation about Y

The three gates that stand in for a rotation about Y are as short as the rules can make them,
unless the angle is a multiple of a half turn. A half turn about X moves to the front, and the two
quarter turns about Z that meet behind it are turned the same way by then: they make a half turn.
A rotation that does nothing is dropped, and the quarter turns cancel out.

Which of the three happens depends on what is left of the angle modulo a full turn. What it looks
like does not: no rule touches the gate about X, so it keeps the angle that was given.
-/

namespace QubitRotation

open Reduction

/-- What the rules make of the replacement of a rotation about Y: nothing for a multiple of a full
turn, two gates for an odd multiple of a half turn, and the three gates themselves otherwise. -/
def nativeTurn (angle : Angle) : List Gate :=
  if angle.toInt % 360 = 0 then []
  else if angle.toInt % 360 = 180 then [.x angle, .z 180]
  else [.z 90, .x angle, .z (-90)]

namespace Reduction

variable {angle : Angle}

/-- With a gate about Z on each side, the gate about X may move if it is a half turn. -/
theorem isEligible_expandY (angle : Angle) :
    isEligible none (.z Angle.quarterTurn) (.x angle) (some (.z (-Angle.quarterTurn))) =
      (Gate.x angle).isHalfTurn := by
  simp [isEligible, Gate.x, Gate.z]

/-- No other gate may, since a quarter turn never is one. -/
theorem reflectionSite?_expandY (angle : Angle) :
    reflectionSite? (expandY angle) = if (Gate.x angle).isHalfTurn then some 1 else none := by
  have last : isEligible (some (.z Angle.quarterTurn)) (.x angle) (.z (-Angle.quarterTurn)) none =
      false := rfl
  rw [reflectionSite?, expandY, siteFrom, siteFrom, List.head?_cons, isEligible_expandY,
    List.head?_nil, last]
  rfl

/-- A half turn takes one move and one merge. -/
theorem advances_of_half (half : (Gate.x angle).isHalfTurn = true) :
    Relation.ReflTransGen Advances (expandY angle) [.x angle, .z 180] := by
  have found : reflectionSite? (expandY angle) = some 1 := by
    rw [reflectionSite?_expandY, if_pos half]
  have moves : reflection (expandY angle) = ⟨1, [.x angle, .z (-90), .z (-90)]⟩ := by
    have eligible := (isEligible_expandY angle).trans half
    rw [reflection, expandY, reflectFrom_of_eligible eligible]
    rfl
  have moved : Advances (expandY angle) [.x angle, .z (-90), .z (-90)] :=
    ⟨.reflection, active?_eq_reflection rfl found, congrArg Pass.gates moves⟩
  have merged : Advances [.x angle, .z (-90), .z (-90)] [.x angle, .z 180] :=
    ⟨.merge, active?_eq_merge Nat.one_pos, rfl⟩
  exact .head moved (.single merged)

/-- A turn that does nothing takes one elimination. Then the quarter turns meet, and they cancel
out. -/
theorem advances_of_identity (identity : (Gate.x angle).isIdentity = true)
    (noHalf : (Gate.x angle).isHalfTurn = false) :
    Relation.ReflTransGen Advances (expandY angle) [] := by
  have noSite : reflectionSite? (expandY angle) = none := by
    rw [reflectionSite?_expandY, noHalf]
    rfl
  have member : .x angle ∈ expandY angle := List.mem_cons_of_mem _ (List.mem_cons_self ..)
  have drops : (identityElimination (expandY angle)).gates = [.z 90, .z (-90)] := by
    change [Gate.z 90, .x angle, .z (-90)].filter (!·.isIdentity) = _
    rw [List.filter_cons_of_pos rfl, List.filter_cons_of_neg (by simp [identity])]
    rfl
  have dropped : Advances (expandY angle) [.z 90, .z (-90)] :=
    ⟨.identityElimination, active?_eq_elimination rfl noSite member identity, drops⟩
  have merged : Advances [.z 90, .z (-90)] [.z 0] := ⟨.merge, by decide, by decide⟩
  have cancelled : Advances [.z 0] [] := ⟨.identityElimination, by decide, by decide⟩
  exact .head dropped (.head merged (.single cancelled))

/-- Every other turn has its shortest form already. -/
theorem reduced_expandY (noIdentity : (Gate.x angle).isIdentity = false)
    (noHalf : (Gate.x angle).isHalfTurn = false) : Reduced (expandY angle) where
  noIdentity := by
    simp only [expandY, List.forall_mem_cons]
    exact ⟨rfl, noIdentity, rfl, List.forall_mem_nil _⟩
  alternating := rfl
  noSite := by
    rw [reflectionSite?_expandY, noHalf]
    rfl

/-- So is the form of a half turn: in the second place a half turn only moves if a third gate
follows. -/
theorem reduced_of_half (noIdentity : (Gate.x angle).isIdentity = false) :
    Reduced [.x angle, .z 180] where
  noIdentity := by
    simp only [List.forall_mem_cons]
    exact ⟨noIdentity, rfl, List.forall_mem_nil _⟩
  alternating := rfl
  noSite := rfl

theorem reduced_nil : Reduced [] where
  noIdentity := List.forall_mem_nil _
  alternating := rfl
  noSite := rfl

/-- The iterations of a run lead from the replacement to the shortest form and no further. -/
theorem advances_nativeTurn (angle : Angle) :
    Relation.ReflTransGen Advances (expandY angle) (nativeTurn angle) ∧
      Reduced (nativeTurn angle) := by
  have identity_iff : (Gate.x angle).isIdentity = true ↔ angle.toInt % 360 = 0 :=
    Gate.isIdentity_iff
  have half_iff : (Gate.x angle).isHalfTurn = true ↔ angle.toInt % 360 = 180 :=
    Gate.isHalfTurn_iff
  unfold nativeTurn
  split
  next zero =>
    have noHalf : (Gate.x angle).isHalfTurn = false :=
      Bool.eq_false_iff.mpr (mt half_iff.mp (by omega))
    exact ⟨advances_of_identity (identity_iff.mpr zero) noHalf, reduced_nil⟩
  next notZero =>
    have noIdentity : (Gate.x angle).isIdentity = false :=
      Bool.eq_false_iff.mpr (mt identity_iff.mp notZero)
    split
    next half => exact ⟨advances_of_half (half_iff.mpr half), reduced_of_half noIdentity⟩
    next notHalf =>
      have noHalf : (Gate.x angle).isHalfTurn = false :=
        Bool.eq_false_iff.mpr (mt half_iff.mp notHalf)
      exact ⟨.refl, reduced_expandY noIdentity noHalf⟩

end Reduction

/-- Optimising a lone rotation about Y for the hardware gives nothing if the angle is a multiple of
a full turn, two gates if it is an odd multiple of a half turn, and the replacement as it is
otherwise. The gate about X keeps the angle that was given, whatever its size. This holds of every
factor, since three gates need no more than the least budget. -/
theorem lone_turn_native_form (angle : Angle) :
    (∀ factor, (∃ final, (runNative factor [.y angle]).outcome = .ok final) ∧
      (runNative factor [.y angle]).gates = nativeTurn angle) ∧
    ∀ (settings : Settings) name,
      settings.optimizeXZ ⟨[.y angle], name⟩ = .ok ⟨nativeTurn angle, name⟩ := by
  obtain ⟨onward, reduced⟩ := advances_nativeTurn angle
  have converges (factor : Nat) :
      (∃ final, (runNative factor [.y angle]).outcome = .ok final) ∧
        (runNative factor [.y angle]).gates = nativeTurn angle := by
    have few : (expandY angle).length ≤ 7 := by
      change 3 ≤ 7
      decide
    obtain ⟨final, converged⟩ := converged_of_few few factor
    have replaced : expandAll [.y angle] = expandY angle := rfl
    rw [outcome_runNative, gates_runNative, replaced, converged]
    exact ⟨⟨_, rfl⟩, gates_run_of_advances converged onward (reduced_iff_inactive.mp reduced)⟩
  refine ⟨converges, fun settings name => ?_⟩
  obtain ⟨converged, left⟩ := converges settings.factor.toNat
  exact Settings.optimizeXZ_eq_ok_iff.mpr ⟨converged, by rw [left]; rfl⟩

example : nativeTurn 540 = [.x 540, .z 180] := by decide

end QubitRotation
