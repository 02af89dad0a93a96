import Mathlib.Data.List.Chain
import QubitRotation.Proofs.Optimization.Outcome
import QubitRotation.Proofs.Reduction.Reflection
import QubitRotation.Proofs.Reduction.Rewriting

/-!
# The form of circuits for the hardware

Optimising for the hardware leaves rotations about X and Z in turns. With two axes only, both
neighbours of a gate turn about the same axis, so a half turn with a gate on each side, or with
two gates to its left, may always move (`eligibleAt_of_two_axes`). A reduced sequence of three or
more gates therefore has a half turn in its first place at most. The number of gates about an axis
is settled by the length and the first axis (`countP_head_axis`).

`native_normal_form` states this of every circuit.
-/

namespace QubitRotation

open Reduction
open Circuit (alternates alternates_cons)

theorem Circuit.alternates_iff_isChain {gates : List Gate} :
    alternates gates = true ↔ gates.IsChain fun first second => first.axis ≠ second.axis := by
  induction gates with
  | nil => simp [alternates]
  | cons gate gates ih => rw [alternates_cons, List.isChain_cons, ih]

/-- Among two axes there is no third. -/
theorem Axis.eq_of_native {first second third : Axis} (firstNative : first ≠ .y)
    (secondNative : second ≠ .y) (thirdNative : third ≠ .y) (apart : first ≠ second)
    (again : second ≠ third) : third = first := by
  cases first <;> cases second <;> cases third <;> first | rfl | contradiction

/-- The form in which circuits for the hardware end up. -/
structure NativeForm (gates : List Gate) : Prop where
  native : ∀ gate ∈ gates, gate.axis = .x ∨ gate.axis = .z
  noIdentity : ∀ gate ∈ gates, gate.angle.toInt % 360 ≠ 0
  alternating : gates.IsChain fun first second => first.axis ≠ second.axis
  balanced : gates.countP (·.axis = .x) ≤ gates.countP (·.axis = .z) + 1 ∧
    gates.countP (·.axis = .z) ≤ gates.countP (·.axis = .x) + 1
  /-- From three gates on, only the first may be a half turn. -/
  turnFirst : 3 ≤ gates.length → ∀ gate ∈ gates.tail, gate.angle.toInt % 360 ≠ 180

namespace Reduction

/-! ## Half turns -/

section Places

variable {gates : List Gate} {place : Nat}

theorem axisAt?_ne_succ (alternating : alternates gates = true)
    (inside : place + 1 < gates.length) : axisAt? gates place ≠ axisAt? gates (place + 1) := by
  have apart := (Circuit.alternates_iff_isChain.mp alternating).getElem place inside
  rwa [axisAt?_of_lt inside, axisAt?_of_lt (Nat.lt_of_succ_lt inside), Ne, Option.some_inj]

/-- With two axes, every other gate turns about the same one. -/
theorem axisAt?_add_two (native : ∀ gate ∈ gates, gate.axis ≠ .y)
    (alternating : alternates gates = true) (inside : place + 2 < gates.length) :
    axisAt? gates (place + 2) = axisAt? gates place := by
  have chain := Circuit.alternates_iff_isChain.mp alternating
  have middle : place + 1 < gates.length := Nat.lt_of_succ_lt inside
  have axisNative {place : Nat} (inside : place < gates.length) : gates[place].axis ≠ .y :=
    native _ (List.getElem_mem inside)
  rw [axisAt?_of_lt inside, axisAt?_of_lt (Nat.lt_of_succ_lt middle), Option.some_inj]
  exact Axis.eq_of_native (axisNative _) (axisNative middle) (axisNative inside)
    (chain.getElem place middle) (chain.getElem (place + 1) inside)

/-- With two axes, a half turn may move if it has two gates to its left or one on each side. In
three or more gates, that is wherever it does not come first. -/
theorem eligibleAt_of_two_axes (native : ∀ gate ∈ gates, gate.axis ≠ .y)
    (alternating : alternates gates = true) (long : 3 ≤ gates.length)
    (inside : place + 1 < gates.length) (half : gates[place + 1].isHalfTurn = true) :
    EligibleAt gates (place + 1) := by
  have present : gates[place + 1]?.any Gate.isHalfTurn = true := by
    rw [List.getElem?_eq_getElem inside]
    exact half
  refine ⟨Nat.le_add_left .., present, axisAt?_ne_succ alternating inside, ?joins⟩
  case joins =>
    cases place with
    | zero => exact .inl ⟨long, axisAt?_add_two native alternating long⟩
    | succ place =>
        exact .inr ⟨Nat.le_add_left .., (axisAt?_add_two native alternating inside).symm⟩

end Places

/-! ## How many gates about each axis -/

theorem countP_two_axes {gates : List Gate} (native : ∀ gate ∈ gates, gate.axis ≠ .y)
    {first second : Axis} (firstNative : first ≠ .y) (secondNative : second ≠ .y)
    (apart : first ≠ second) :
    gates.countP (·.axis = first) + gates.countP (·.axis = second) = gates.length := by
  induction gates with
  | nil => rfl
  | cons gate gates ih =>
      obtain ⟨gateNative, rearNative⟩ := List.forall_mem_cons.mp native
      have rear := ih rearNative
      by_cases about : gate.axis = first
      · rw [List.countP_cons_of_pos (by simpa using about),
          List.countP_cons_of_neg (by simpa [about] using apart), List.length_cons]
        omega
      · have other : gate.axis = second :=
          Axis.eq_of_native secondNative firstNative gateNative apart.symm (Ne.symm about)
        rw [List.countP_cons_of_neg (by simpa using about),
          List.countP_cons_of_pos (by simpa using other), List.length_cons]
        omega

/-- Every other gate turns about the axis of the first. -/
theorem countP_head_axis {first : Gate} {rest : List Gate}
    (native : ∀ gate ∈ first :: rest, gate.axis ≠ .y)
    (alternating : alternates (first :: rest) = true) :
    (first :: rest).countP (·.axis = first.axis) = (rest.length + 2) / 2 := by
  induction rest generalizing first with
  | nil => simp
  | cons next rest ih =>
      obtain ⟨apart, rear⟩ := alternates_cons.mp alternating
      obtain ⟨firstNative, rearNative⟩ := List.forall_mem_cons.mp native
      -- The rest starts about the other axis, so its gates about this one are the remaining half.
      have nextNative := rearNative next (by simp)
      have both := countP_two_axes rearNative firstNative nextNative (apart next rfl)
      have second := ih rearNative rear
      rw [List.countP_cons_of_pos (by simp)]
      rw [List.length_cons] at both ⊢
      omega

theorem countP_balanced {gates : List Gate} (native : ∀ gate ∈ gates, gate.axis ≠ .y)
    (alternating : alternates gates = true) :
    gates.countP (·.axis = .x) ≤ gates.countP (·.axis = .z) + 1 ∧
      gates.countP (·.axis = .z) ≤ gates.countP (·.axis = .x) + 1 := by
  cases gates with
  | nil => exact ⟨Nat.zero_le _, Nat.zero_le _⟩
  | cons first rest =>
      have both : (first :: rest).countP (·.axis = .x) + (first :: rest).countP (·.axis = .z) =
          (first :: rest).length := countP_two_axes native nofun nofun nofun
      have half := countP_head_axis native alternating
      rw [List.length_cons] at both
      cases about : first.axis with
      | x =>
          rw [about] at half
          omega
      | y => exact absurd about (native first (by simp))
      | z =>
          rw [about] at half
          omega

/-! ## The form -/

theorem Reduced.nativeForm {gates : List Gate} (reduced : Reduced gates)
    (native : ∀ gate ∈ gates, gate.axis ≠ .y) : NativeForm gates where
  native gate member := by
    cases about : gate.axis with
    | x => exact .inl rfl
    | y => exact absurd about (native gate member)
    | z => exact .inr rfl
  noIdentity gate member := by
    rw [Ne, ← Gate.isIdentity_iff, reduced.noIdentity gate member]
    exact Bool.false_ne_true
  alternating := Circuit.alternates_iff_isChain.mp reduced.alternating
  balanced := countP_balanced native reduced.alternating
  turnFirst long gate member := by
    rw [Ne, ← Gate.isHalfTurn_iff]
    intro half
    obtain ⟨place, inside, rfl⟩ := List.mem_iff_getElem.mp member
    rw [List.getElem_tail] at half
    have bound : place + 1 < gates.length := by
      rw [List.length_tail] at inside
      omega
    have eligible := eligibleAt_of_two_axes native reduced.alternating long bound half
    exact reflectionSite?_eq_none_iff.mp reduced.noSite (place + 1) eligible

end Reduction

/-- A native run with a positive factor converges and leaves its sequence in native form, and this
is the circuit that optimising for the hardware returns. -/
theorem native_normal_form (factor : Nat) (gates : List Gate) (positive : 0 < factor)
    (short : (expandAll gates).length < 2 ^ 63) :
    (∃ final, (runNative factor gates).outcome = .ok final) ∧
    NativeForm (runNative factor gates).gates ∧
    ∀ (settings : Settings) name, settings.factor.toNat = factor →
      settings.optimizeXZ ⟨gates, name⟩ = .ok ⟨(runNative factor gates).gates, name⟩ := by
  obtain ⟨final, converged, _⟩ := (runNative_bounded factor gates).converged positive short
  have reduced := reduced_of_native_converged converged
  refine ⟨⟨final, converged⟩, reduced.nativeForm (native_runNative factor gates), ?_⟩
  rintro settings name rfl
  exact Settings.optimizeXZ_eq_ok_iff.mpr ⟨⟨final, converged⟩, rfl⟩

/-- Two half turns, from a rotation about Y, meet in the first place and stay there. -/
theorem native_normal_form_of_half_turns :
    let gates : List Gate := [.y 180, .x 90, .z 45]
    let left : List Gate := [.z 180, .x 270, .z 45]
    0 < 4 ∧ (expandAll gates).length < 2 ^ 63 ∧
    (∃ final, (runNative 4 gates).outcome = .ok final) ∧
    (runNative 4 gates).gates = left ∧ NativeForm left ∧
    Settings.optimizeXZ {} ⟨gates, none⟩ = .ok ⟨left, none⟩ := by
  intro gates left
  have four : 0 < 4 := by decide
  have short : (expandAll gates).length < 2 ^ 63 := by
    change 5 < 2 ^ 63
    omega
  have leaves : (runNative 4 gates).gates = left := by decide +kernel
  obtain ⟨converged, form, optimized⟩ := native_normal_form 4 gates four short
  have returned := optimized {} none rfl
  rw [leaves] at form returned
  exact ⟨four, short, converged, leaves, form, returned⟩

end QubitRotation
