import QubitRotation.Proofs.Optimization.NativeForm

/-!
# Circuits of half turns

If all rotations about one of the two hardware axes are by multiples of a half turn, they stay so:
fusing adds such angles and a swap negates one. In native form those that are left are half turns,
since none of them does nothing. But the axes of a native form take turns, and from three gates on
no half turn is found behind the first gate. So at most two gates are left
(`NativeForm.length_le_two`), however long the circuit was and whatever the other angles are.

A replaced rotation about Y keeps its angle about X, which is why rotations about Y may be counted
among those about X (`half_turns_collapse`).
-/

namespace QubitRotation

open Reduction

/-- Every rotation about the axis is by a multiple of a half turn. -/
def TurnsByHalves (axis : Axis) (gates : List Gate) : Prop :=
  ∀ gate ∈ gates, gate.axis = axis → 180 ∣ gate.angle.toInt

/-! ## Half turns stay half turns -/

/-- Local rewrites keep the multiples of a half turn about an axis. -/
theorem TurnsByHalves.of_rewrites {axis : Axis} {before after : List Gate}
    (halves : TurnsByHalves axis before) (rewrites : Rewrites before after) :
    TurnsByHalves axis after := by
  refine rewrites.forall_mem (P := fun gate => gate.axis = axis → 180 ∣ gate.angle.toInt)
    ?fused ?inverse halves
  case fused =>
    intro first second same ofFirst ofSecond about
    have firstHalf := ofFirst about
    have secondHalf := ofSecond (same.symm.trans about)
    rw [Gate.fused_angle, Angle.toInt_plus]
    omega
  case inverse =>
    intro gate ofGate about
    have half := ofGate about
    have turnedBack := gate.angle.toInt_opposite_emod
    rw [Gate.inverse_angle]
    omega

/-- A replaced rotation about Y turns about X by the same angle. -/
theorem turnsByHalves_expandAll {gates : List Gate} (aboutX : TurnsByHalves .x gates)
    (aboutY : TurnsByHalves .y gates) : TurnsByHalves .x (expandAll gates) := by
  intro part inside about
  obtain ⟨gate, member, stands⟩ := List.mem_flatMap.mp inside
  by_cases replaced : gate.axis = .y
  · have half := aboutY gate member replaced
    rw [expand, replaced] at stands
    simp only [expandY, List.mem_cons, List.not_mem_nil, or_false] at stands
    obtain rfl | rfl | rfl := stands
    · cases about
    · exact half
    · cases about
  · rw [expand_of_native replaced, List.mem_singleton] at stands
    rw [stands] at about ⊢
    exact aboutX gate member about

/-! ## Native forms of half turns -/

namespace NativeForm

variable {gates : List Gate} {axis : Axis}

theorem axis_ne_y (form : NativeForm gates) {gate : Gate} (member : gate ∈ gates) :
    gate.axis ≠ .y := by
  intro aboutY
  obtain aboutX | aboutZ := form.native gate member
  · cases aboutX.symm.trans aboutY
  · cases aboutZ.symm.trans aboutY

/-- Behind the first of three gates both hardware axes occur. -/
theorem exists_about (form : NativeForm gates) (long : 3 ≤ gates.length) (native : axis ≠ .y) :
    ∃ gate ∈ gates.tail, gate.axis = axis := by
  obtain _ | ⟨first, _ | ⟨second, _ | ⟨third, rest⟩⟩⟩ := gates
  · cases long
  · simp at long
  · simp at long
  · have apart : second.axis ≠ third.axis :=
      (List.isChain_cons_cons.mp (List.isChain_cons_cons.mp form.alternating).2).1
    by_cases about : second.axis = axis
    · exact ⟨second, by simp, about⟩
    · have other : third.axis = axis :=
        Axis.eq_of_native native (form.axis_ne_y (by simp)) (form.axis_ne_y (by simp))
          (Ne.symm about) apart
      exact ⟨third, by simp, other⟩

theorem length_le_two (form : NativeForm gates) (halves : TurnsByHalves axis gates)
    (native : axis ≠ .y) : gates.length ≤ 2 := by
  by_contra long
  obtain ⟨gate, behind, about⟩ := form.exists_about (Nat.lt_of_not_le long) native
  have member : gate ∈ gates := List.mem_of_mem_tail behind
  have half := halves gate member about
  have something := form.noIdentity gate member
  exact form.turnFirst (Nat.lt_of_not_le long) gate behind (by omega)

end NativeForm

/-- A native run of a sequence whose replacement turns by halves about X or about Z. -/
theorem Reduction.length_runNative_le_two {factor : Nat} {gates : List Gate} {final : Tally}
    (converged : (runNative factor gates).outcome = .ok final) {axis : Axis}
    (halves : TurnsByHalves axis (expandAll gates)) (native : axis ≠ .y) :
    (runNative factor gates).gates.length ≤ 2 := by
  have form : NativeForm (runNative factor gates).gates :=
    (reduced_of_native_converged converged).nativeForm (native_runNative factor gates)
  exact form.length_le_two (halves.of_rewrites (rewrites_runNative factor gates)) native

/-- Half turns collapse completely. If every rotation about X and about Y is by a multiple of a
half turn, or there is none about Y and every one about Z is by such a multiple, then optimising
for the hardware leaves at most two gates. With a positive factor it has a result for every
circuit that a memory can hold. -/
theorem half_turns_collapse (settings : Settings) (circuit : Circuit)
    (halves :
      (∀ gate ∈ circuit.gates, gate.axis = .x ∨ gate.axis = .y → 180 ∣ gate.angle.toInt) ∨
      ((∀ gate ∈ circuit.gates, gate.axis ≠ .y) ∧
        ∀ gate ∈ circuit.gates, gate.axis = .z → 180 ∣ gate.angle.toInt)) :
    (∀ native, settings.optimizeXZ circuit = .ok native → native.size ≤ 2) ∧
    (settings.factor ≠ 0 → (expandAll circuit.gates).length < 2 ^ 63 →
      ∃ native, settings.optimizeXZ circuit = .ok native ∧ native.size ≤ 2) := by
  have atMostTwo (native : Circuit) (optimized : settings.optimizeXZ circuit = .ok native) :
      native.size ≤ 2 := by
    obtain ⟨⟨_, converged⟩, rfl⟩ := Settings.optimizeXZ_eq_ok_iff.mp optimized
    rw [Circuit.size_withGates]
    obtain aboutXY | ⟨noY, aboutZ⟩ := halves
    · have aboutX : TurnsByHalves .x (expandAll circuit.gates) :=
        turnsByHalves_expandAll (fun gate member about => aboutXY gate member (.inl about))
          (fun gate member about => aboutXY gate member (.inr about))
      exact length_runNative_le_two converged aboutX nofun
    · have unreplaced : TurnsByHalves .z (expandAll circuit.gates) := by
        rw [expandAll_of_native noY]
        exact aboutZ
      exact length_runNative_le_two converged unreplaced nofun
  refine ⟨atMostTwo, fun positive short => ?_⟩
  have optimized := Settings.optimizeXZ_eq positive short
  exact ⟨_, optimized, atMostTwo _ optimized⟩

/-- Seven gates with half turns about X and Y, and six with half turns about Z. -/
theorem half_turns_collapse_of_sequences :
    let flips : Circuit := ⟨[.x 180, .z 37, .y (-540), .z 5, .x 360, .y 180, .z 100], none⟩
    let phases : Circuit := ⟨[.z 180, .x 37, .z (-180), .x 11, .z 540, .x 1], none⟩
    let settings : Settings := {}
    ((∀ gate ∈ flips.gates, gate.axis = .x ∨ gate.axis = .y → 180 ∣ gate.angle.toInt) ∧
      ∃ native, settings.optimizeXZ flips = .ok native ∧ native.size ≤ 2) ∧
    ((∀ gate ∈ phases.gates, gate.axis ≠ .y) ∧
      (∀ gate ∈ phases.gates, gate.axis = .z → 180 ∣ gate.angle.toInt) ∧
      settings.factor ≠ 0 ∧ (expandAll phases.gates).length < 2 ^ 63 ∧
      ∃ native, settings.optimizeXZ phases = .ok native ∧ native.size ≤ 2) ∧
    settings.optimizeXZ phases = .ok ⟨[.z 180, .x 27], none⟩ ∧
      (⟨[.z 180, .x 27], none⟩ : Circuit).size ≤ 2 := by
  intro flips phases settings
  have positive : settings.factor ≠ 0 := by decide
  have flipsShort : (expandAll flips.gates).length < 2 ^ 63 := by
    change 11 < 2 ^ 63
    omega
  have phasesShort : (expandAll phases.gates).length < 2 ^ 63 := by
    change 6 < 2 ^ 63
    omega
  have aboutXY : ∀ gate ∈ flips.gates,
      gate.axis = .x ∨ gate.axis = .y → 180 ∣ gate.angle.toInt := by decide
  have noY : ∀ gate ∈ phases.gates, gate.axis ≠ .y := by decide
  have aboutZ : ∀ gate ∈ phases.gates, gate.axis = .z → 180 ∣ gate.angle.toInt := by decide
  have left : settings.optimizeXZ phases = .ok ⟨[.z 180, .x 27], none⟩ := by decide +kernel
  obtain ⟨_, flipped⟩ := half_turns_collapse settings flips (.inl aboutXY)
  obtain ⟨atMostTwo, phased⟩ := half_turns_collapse settings phases (.inr ⟨noY, aboutZ⟩)
  exact ⟨⟨aboutXY, flipped positive flipsShort⟩,
    ⟨noY, aboutZ, positive, phasesShort, phased positive phasesShort⟩, left, atMostTwo _ left⟩

end QubitRotation
