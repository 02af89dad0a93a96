import Mathlib.Algebra.Ring.Int.Units
import Mathlib.Data.Int.ModEq
import Mathlib.Data.List.Forall2
import Mathlib.Logic.Equiv.Basic
import QubitRotation.Proofs.Reduction.Passes
import QubitRotation.Proofs.Reduction.Replacement

/-!
# Symmetries of the reduction

The reduction sees an angle only up to full turns, and no axis is special to it. A `Symmetry`
exchanges the axes and turns some of them round. It relates a gate to each of its images: the
gates about the image of the axis whose angle is, up to full turns, the same or the opposite one.

Related sequences stay related under everything that a run does, and every decision falls the same
way for both. Each function of the reduction has one lemma that says so, in the order in which a
run is built from them. `run_respects_symmetry` is their last consequence: runs of related
sequences have equal outcomes and leave related sequences. A native run replaces rotations about Y
and no others, so it only respects congruence of angles.
-/

namespace QubitRotation

/-- An exchange of the axes, each of which may be turned round. -/
structure Symmetry where
  axes : Equiv.Perm Axis
  sign : Axis → ℤˣ

namespace Symmetry

open Reduction

/-- A gate and an image of it. -/
structure Relates (σ : Symmetry) (gate image : Gate) : Prop where
  axis : image.axis = σ.axes gate.axis
  angle : image.angle.toInt ≡ σ.sign gate.axis * gate.angle.toInt [ZMOD 360]

variable {σ : Symmetry}

/-! ## Gates -/

namespace Relates

variable {gate image first second firstImage secondImage : Gate}

theorem axis_eq_iff (ofFirst : σ.Relates first firstImage)
    (ofSecond : σ.Relates second secondImage) :
    firstImage.axis = secondImage.axis ↔ first.axis = second.axis := by
  rw [ofFirst.axis, ofSecond.axis, σ.axes.apply_eq_iff_eq]

/-- An angle and its opposite are zero together, and they are a half turn together. -/
theorem sign_mul_emod_iff (axis : Axis) (angle : Int) {residue : Int}
    (own : residue = 0 ∨ residue = 180) :
    (σ.sign axis * angle) % 360 = residue ↔ angle % 360 = residue := by
  obtain same | opposite := Int.units_eq_one_or (σ.sign axis)
  · rw [same, Units.val_one, one_mul]
  · rw [opposite, Units.val_neg, Units.val_one, neg_one_mul]
    omega

theorem isIdentity_eq (related : σ.Relates gate image) : image.isIdentity = gate.isIdentity := by
  rw [Bool.eq_iff_iff, Gate.isIdentity_iff, Gate.isIdentity_iff, related.angle,
    sign_mul_emod_iff gate.axis _ (.inl rfl)]

theorem isHalfTurn_eq (related : σ.Relates gate image) : image.isHalfTurn = gate.isHalfTurn := by
  rw [Bool.eq_iff_iff, Gate.isHalfTurn_iff, Gate.isHalfTurn_iff, related.angle,
    sign_mul_emod_iff gate.axis _ (.inr rfl)]

theorem fused (ofFirst : σ.Relates first firstImage) (ofSecond : σ.Relates second secondImage)
    (same : first.axis = second.axis) :
    σ.Relates (first.fused second) (firstImage.fused secondImage) where
  axis := ofFirst.axis
  angle := by
    have secondAngle := ofSecond.angle
    rw [← same] at secondAngle
    simp only [Gate.fused_angle, Gate.fused_axis, Angle.toInt_plus]
    calc (firstImage.angle.toInt + secondImage.angle.toInt) % 360
        ≡ firstImage.angle.toInt + secondImage.angle.toInt [ZMOD 360] := Int.mod_modEq _ _
      _ ≡ σ.sign first.axis * first.angle.toInt + σ.sign first.axis * second.angle.toInt
          [ZMOD 360] := ofFirst.angle.add secondAngle
      _ = σ.sign first.axis * (first.angle.toInt + second.angle.toInt) := (mul_add _ _ _).symm
      _ ≡ σ.sign first.axis * ((first.angle.toInt + second.angle.toInt) % 360) [ZMOD 360] :=
          (Int.mod_modEq _ _).symm.mul_left _

theorem inverse (related : σ.Relates gate image) : σ.Relates gate.inverse image.inverse where
  axis := related.axis
  angle := by
    have turnedBack (gate : Gate) : gate.inverse.angle.toInt ≡ -gate.angle.toInt [ZMOD 360] :=
      gate.angle.toInt_opposite_emod
    calc image.inverse.angle.toInt
        ≡ -image.angle.toInt [ZMOD 360] := turnedBack image
      _ ≡ -(σ.sign gate.axis * gate.angle.toInt) [ZMOD 360] := related.angle.neg
      _ = σ.sign gate.axis * -gate.angle.toInt := (mul_neg _ _).symm
      _ ≡ σ.sign gate.axis * gate.inverse.angle.toInt [ZMOD 360] :=
          (turnedBack gate).symm.mul_left _

end Relates

/-! ## Passes -/

/-- Two passes that fired equally often and left related sequences. -/
structure RelatesPass (σ : Symmetry) (pass image : Pass) : Prop where
  count : image.count = pass.count
  gates : List.Forall₂ σ.Relates pass.gates image.gates

variable {gates images : List Gate}

theorem relatesPass_fuseFrom {current currentImage : Gate}
    (ofCurrent : σ.Relates current currentImage) (related : List.Forall₂ σ.Relates gates images) :
    σ.RelatesPass (fuseFrom current gates) (fuseFrom currentImage images) := by
  induction related generalizing current currentImage with
  | nil => exact ⟨rfl, .cons ofCurrent .nil⟩
  | @cons next nextImage rest restImages ofNext _ ih =>
      by_cases same : current.axis = next.axis
      · have sameImage := (ofCurrent.axis_eq_iff ofNext).mpr same
        obtain ⟨count, left⟩ := ih (ofCurrent.fused ofNext same)
        rw [fuseFrom_of_eq same, fuseFrom_of_eq sameImage]
        exact ⟨congrArg (· + 1) count, left⟩
      · have apartImage := mt (ofCurrent.axis_eq_iff ofNext).mp same
        obtain ⟨count, left⟩ := ih ofNext
        rw [fuseFrom_of_ne same, fuseFrom_of_ne apartImage]
        exact ⟨count, .cons ofCurrent left⟩

theorem relatesPass_fuseRuns (related : List.Forall₂ σ.Relates gates images) :
    σ.RelatesPass (fuseRuns gates) (fuseRuns images) := by
  cases related with
  | nil => exact ⟨rfl, .nil⟩
  | cons first rest => exact relatesPass_fuseFrom first rest

theorem any_axis_eq {neighbour? neighbourImage? : Option Gate} {gate image : Gate}
    (neighbours : Option.Rel σ.Relates neighbour? neighbourImage?)
    (related : σ.Relates gate image) :
    neighbourImage?.any (·.axis = image.axis) = neighbour?.any (·.axis = gate.axis) := by
  cases neighbours with
  | none => rfl
  | some neighbour =>
      rw [Option.any_some, Option.any_some, decide_eq_decide]
      exact neighbour.axis_eq_iff related

/-- A half turn is eligible where its image is. -/
theorem isEligible_eq {before? beforeImage? after? afterImage? : Option Gate}
    {left turn leftImage turnImage : Gate} (before : Option.Rel σ.Relates before? beforeImage?)
    (ofLeft : σ.Relates left leftImage) (ofTurn : σ.Relates turn turnImage)
    (after : Option.Rel σ.Relates after? afterImage?) :
    isEligible beforeImage? leftImage turnImage afterImage? =
      isEligible before? left turn after? := by
  have apart : (leftImage.axis != turnImage.axis) = (left.axis != turn.axis) := by
    rw [Bool.eq_iff_iff, bne_iff_ne, bne_iff_ne]
    exact not_congr (ofLeft.axis_eq_iff ofTurn)
  rw [isEligible, isEligible, apart, ofTurn.isHalfTurn_eq, any_axis_eq after ofLeft,
    any_axis_eq before ofTurn]

theorem rel_head? (related : List.Forall₂ σ.Relates gates images) :
    Option.Rel σ.Relates gates.head? images.head? := by
  cases related with
  | nil => exact .none
  | cons first _ => exact .some first

theorem rel_map_cons {gate image : Gate} (ofGate : σ.Relates gate image)
    {gates? images? : Option (List Gate)}
    (related : Option.Rel (List.Forall₂ σ.Relates) gates? images?) :
    Option.Rel (List.Forall₂ σ.Relates) (gates?.map (gate :: ·)) (images?.map (image :: ·)) := by
  cases related with
  | none => exact .none
  | some rest => exact .some (.cons ofGate rest)

theorem rel_reflectFrom {before? beforeImage? : Option Gate}
    (before : Option.Rel σ.Relates before? beforeImage?)
    (related : List.Forall₂ σ.Relates gates images) :
    Option.Rel (List.Forall₂ σ.Relates) (reflectFrom before? gates)
      (reflectFrom beforeImage? images) := by
  induction related generalizing before? beforeImage? with
  | nil => exact .none
  | @cons left leftImage _ _ ofLeft related ih =>
      cases related with
      | nil => exact .none
      | @cons turn turnImage rest restImages ofTurn ofRest =>
          have eligible_eq := isEligible_eq before ofLeft ofTurn (rel_head? ofRest)
          by_cases eligible : isEligible before? left turn rest.head? = true
          · rw [reflectFrom_of_eligible eligible,
              reflectFrom_of_eligible (eligible_eq.trans eligible)]
            exact .some (.cons ofTurn (.cons ofLeft.inverse ofRest))
          · have barred : ¬isEligible beforeImage? leftImage turnImage restImages.head? = true := by
              rwa [eligible_eq]
            rw [reflectFrom_of_not_eligible eligible, reflectFrom_of_not_eligible barred]
            exact rel_map_cons ofLeft (ih (.some ofLeft))

theorem relatesPass_reflection (related : List.Forall₂ σ.Relates gates images) :
    σ.RelatesPass (reflection gates) (reflection images) := by
  have moves := rel_reflectFrom .none related
  unfold reflection
  generalize reflectFrom none gates = moved? at moves ⊢
  generalize reflectFrom none images = movedImage? at moves ⊢
  cases moves with
  | none => exact ⟨rfl, related⟩
  | some moved => exact ⟨rfl, moved⟩

theorem relatesPass_identityElimination (related : List.Forall₂ σ.Relates gates images) :
    σ.RelatesPass (identityElimination gates) (identityElimination images) := by
  have kept : List.Forall₂ σ.Relates (gates.filter (!·.isIdentity))
      (images.filter (!·.isIdentity)) := by
    refine List.rel_filter ?_ related
    intro gate image ofGate
    change (!gate.isIdentity) = true ↔ (!image.isIdentity) = true
    rw [ofGate.isIdentity_eq]
  refine ⟨?_, kept⟩
  change images.length - _ = gates.length - _
  rw [related.length_eq, kept.length_eq]

theorem relatesPass_pass (related : List.Forall₂ σ.Relates gates images) (rule : Rule) :
    σ.RelatesPass (rule.pass gates) (rule.pass images) := by
  cases rule with
  | merge => exact relatesPass_fuseRuns related
  | reflection => exact relatesPass_reflection related
  | identityElimination => exact relatesPass_identityElimination related

/-! ## Runs -/

theorem active?_eq (related : List.Forall₂ σ.Relates gates images) :
    active? images = active? gates := by
  have fires (rule : Rule) : (rule.pass images).count = (rule.pass gates).count :=
    (relatesPass_pass related rule).count
  simp only [active?, fires]

/-- Two runs with equal outcomes and firings that left related sequences. -/
structure RelatesRun (σ : Symmetry) (run image : Run) : Prop where
  outcome : image.outcome = run.outcome
  firings : image.firings = run.firings
  gates : List.Forall₂ σ.Relates run.gates image.gates

theorem relatesRun_runFrom (related : List.Forall₂ σ.Relates gates images) (remaining : Nat)
    (tally : Tally) :
    σ.RelatesRun (runFrom remaining tally gates) (runFrom remaining tally images) := by
  induction remaining generalizing tally gates images with
  | zero => exact ⟨rfl, rfl, related⟩
  | succ remaining ih =>
      -- The same rule is active on both sides, so both runs take the same branch.
      have both := active?_eq related
      cases active : active? gates with
      | none =>
          rw [runFrom_of_inactive active, runFrom_of_inactive (both.trans active),
            related.length_eq]
          exact ⟨rfl, rfl, related⟩
      | some rule =>
          obtain ⟨count, left⟩ := relatesPass_pass related rule
          obtain ⟨outcome, firings, final⟩ :=
            ih left (tally.iterate.record rule (rule.pass gates).count)
          rw [runFrom_of_active active, runFrom_of_active (both.trans active), count,
            left.length_eq]
          exact ⟨outcome, congrArg (_ :: ·) firings, final⟩

theorem relatesRun_run (related : List.Forall₂ σ.Relates gates images) (factor : Nat) :
    σ.RelatesRun (run factor gates) (run factor images) := by
  rw [run, run, related.length_eq]
  exact relatesRun_runFrom related _ _

end Symmetry

/-! ## Congruence of angles -/

namespace Gate

/-- Two gates about one axis whose angles differ by full turns. -/
structure Congruent (gate image : Gate) : Prop where
  axis : image.axis = gate.axis
  angle : image.angle.toInt ≡ gate.angle.toInt [ZMOD 360]

variable {gate image : Gate}

/-- Congruence is the symmetry that changes no axis. -/
theorem congruent_iff_relates :
    gate.Congruent image ↔ (Symmetry.mk (Equiv.refl Axis) 1).Relates gate image := by
  have positive : ((1 : ℤˣ) : ℤ) * gate.angle.toInt = gate.angle.toInt := by
    rw [Units.val_one, one_mul]
  constructor
  · rintro ⟨axis, angle⟩
    rw [← positive] at angle
    exact ⟨axis, angle⟩
  · rintro ⟨axis, angle⟩
    change _ ≡ ((1 : ℤˣ) : ℤ) * _ [ZMOD 360] at angle
    rw [positive] at angle
    exact ⟨axis, angle⟩

end Gate

namespace Reduction

variable {gates images : List Gate}

/-- The gates that stand in for congruent gates are congruent. -/
theorem congruent_expand {gate image : Gate} (congruent : gate.Congruent image) :
    List.Forall₂ Gate.Congruent (expand gate) (expand image) := by
  obtain ⟨axis, angle⟩ := gate
  obtain ⟨imageAxis, imageAngle⟩ := image
  obtain ⟨about, same⟩ := congruent
  change imageAxis = axis at about
  subst about
  cases imageAxis with
  | x => exact .cons ⟨rfl, same⟩ .nil
  | y => exact .cons ⟨rfl, rfl⟩ (.cons ⟨rfl, same⟩ (.cons ⟨rfl, rfl⟩ .nil))
  | z => exact .cons ⟨rfl, same⟩ .nil

theorem congruent_expandAll (congruent : List.Forall₂ Gate.Congruent gates images) :
    List.Forall₂ Gate.Congruent (expandAll gates) (expandAll images) :=
  List.rel_flatMap congruent fun _ _ => congruent_expand

theorem countY_eq_of_congruent (congruent : List.Forall₂ Gate.Congruent gates images) :
    countY images = countY gates := by
  induction congruent with
  | nil => rfl
  | cons first _ ih =>
      rw [countY, countY, List.countP_cons, List.countP_cons, first.axis]
      exact congrArg (· + _) ih

end Reduction

open Reduction

/-- A run neither sees full turns nor tells axes apart: if one sequence is the image of another
under a symmetry, gate by gate, their runs have the same outcome, tally or fault, and leave two
sequences of which again one is the image of the other. A native run does not see full turns. -/
theorem run_respects_symmetry (factor : Nat) (gates images : List Gate) :
    (∀ σ : Symmetry, List.Forall₂ σ.Relates gates images →
      (run factor images).outcome = (run factor gates).outcome ∧
      List.Forall₂ σ.Relates (run factor gates).gates (run factor images).gates) ∧
    (List.Forall₂ Gate.Congruent gates images →
      (runNative factor images).outcome = (runNative factor gates).outcome ∧
      List.Forall₂ Gate.Congruent (runNative factor gates).gates
        (runNative factor images).gates) := by
  constructor
  · intro σ related
    have runs := Symmetry.relatesRun_run related factor
    exact ⟨runs.outcome, runs.gates⟩
  · intro congruent
    have replaced := (congruent_expandAll congruent).imp fun _ _ => Gate.congruent_iff_relates.mp
    have runs := Symmetry.relatesRun_run replaced factor
    rw [outcome_runNative, outcome_runNative, gates_runNative, gates_runNative, runs.outcome,
      congruent.length_eq, countY_eq_of_congruent congruent]
    exact ⟨rfl, runs.gates.imp fun _ _ => Gate.congruent_iff_relates.mpr⟩

/-- X and Y change places and X is turned round. The angles are far apart, the least one included,
and a half turn about Z moves in both sequences. -/
theorem run_respects_symmetry_of_exchange :
    let σ : Symmetry := ⟨Equiv.swap .x .y, fun axis => if axis = .x then -1 else 1⟩
    let gates : List Gate := [.x 30, .z 540, .x Int64.minValue]
    let images : List Gate := [.y (-30), .z (-180), .y 8]
    let turns : List Gate := [.y 450, .x 30]
    let shifted : List Gate := [.y 90, .x 390]
    (List.Forall₂ σ.Relates gates images ∧
      (run 1 images).outcome = (run 1 gates).outcome ∧
      (run 1 gates).gates = [.z 540, .x 322] ∧ (run 1 images).gates = [.z (-180), .y 38] ∧
      List.Forall₂ σ.Relates [.z 540, .x 322] [.z (-180), .y 38]) ∧
    List.Forall₂ Gate.Congruent turns shifted ∧
      (runNative 1 shifted).outcome = (runNative 1 turns).outcome ∧
      List.Forall₂ Gate.Congruent (runNative 1 turns).gates (runNative 1 shifted).gates := by
  intro σ gates images turns shifted
  have related : List.Forall₂ σ.Relates gates images :=
    .cons ⟨rfl, by decide⟩ (.cons ⟨rfl, by decide⟩ (.cons ⟨rfl, by decide⟩ .nil))
  have congruent : List.Forall₂ Gate.Congruent turns shifted :=
    .cons ⟨rfl, by decide⟩ (.cons ⟨rfl, by decide⟩ .nil)
  have left : (run 1 gates).gates = [.z 540, .x 322] := by decide +kernel
  have leftImage : (run 1 images).gates = [.z (-180), .y 38] := by decide +kernel
  obtain ⟨outcome, final⟩ := (run_respects_symmetry 1 gates images).1 σ related
  rw [left, leftImage] at final
  exact ⟨⟨related, outcome, left, leftImage, final⟩, congruent,
    (run_respects_symmetry 1 turns shifted).2 congruent⟩

end QubitRotation
