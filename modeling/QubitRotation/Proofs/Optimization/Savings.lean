import QubitRotation.Proofs.Optimization.Report
import QubitRotation.Proofs.Reduction.Rewriting
import QubitRotation.Proofs.Results

/-!
# What optimising saves

Axes have different costs, so a shorter sequence need not be a faster one. But no local rewrite
makes the rotations about any axis more, and a run consists of local rewrites; so a run never
costs time on any axis, also where it was given up. The running time is a sum over the axes that is
cut off once, and such sums compare as their terms do: the estimate for a circuit is at most the
running time of the circuit with its rotations about Y replaced (`optimizing_saves_time`).
-/

namespace QubitRotation

open Reduction

/-! ## Counting gates -/

/-- Whatever its outcome, a run leaves no more gates about any axis. -/
theorem Reduction.countP_run_le (factor : Nat) (gates : List Gate) (axis : Axis) :
    (run factor gates).gates.countP (·.axis = axis) ≤ gates.countP (·.axis = axis) :=
  (rewrites_run factor gates).countP_axis_le axis

theorem Reduction.countP_runNative_le (factor : Nat) (gates : List Gate) (axis : Axis) :
    (runNative factor gates).gates.countP (·.axis = axis) ≤
      (expandAll gates).countP (·.axis = axis) :=
  (rewrites_runNative factor gates).countP_axis_le axis

/-- A rotation about Y takes the time of two about Z and one about X. -/
theorem Hardware.Costs.exactTime_expandAll (costs : Hardware.Costs) (circuit : Circuit) :
    costs.exactTime (expandAll circuit.gates) =
      costs.z.toNat * (circuit.countAbout .z + 2 * circuit.countAbout .y) +
        costs.x.toNat * (circuit.countAbout .x + circuit.countAbout .y) := by
  have nativeZ : Axis.z ≠ .y := nofun
  have nativeX : Axis.x ≠ .y := nofun
  have aboutZ : (expandAll circuit.gates).countP (·.axis = .z) =
      circuit.countAbout .z + 2 * circuit.countAbout .y := countP_expandAll nativeZ circuit.gates
  have aboutX : (expandAll circuit.gates).countP (·.axis = .x) =
      circuit.countAbout .x + 1 * circuit.countAbout .y := countP_expandAll nativeX circuit.gates
  rw [Hardware.Costs.exactTime, aboutZ, aboutX, Nat.one_mul]

/-! ## Estimates -/

namespace Settings

variable {settings : Settings} {circuit : Circuit} {time : UInt64}

/-- An estimate is the running time of the circuit that optimising for the hardware returns. -/
theorem nativeRunningTime_eq_ok_iff :
    settings.nativeRunningTime circuit = .ok time ↔
      ∃ costs, settings.costs = .ok costs ∧
        ∃ native, settings.optimizeXZ circuit = .ok native ∧
          costs.runningTime native.gates = .ok time := by
  rw [nativeRunningTime, Except.bind_eq_ok_iff]
  simp only [Except.bind_eq_ok_iff]

/-- No estimate exceeds the running time of the circuit before the reduction. -/
theorem nativeRunningTime_le {costs : Hardware.Costs} (priced : settings.costs = .ok costs)
    (estimated : settings.nativeRunningTime circuit = .ok time) :
    time ≤ UInt64.ofNat (Capped.cap (costs.exactTime (expandAll circuit.gates))) := by
  obtain ⟨again, alsoPriced, native, optimized, timed⟩ := nativeRunningTime_eq_ok_iff.mp estimated
  have same : again = costs := Except.ok.inj (alsoPriced.symm.trans priced)
  obtain ⟨_, rfl⟩ := optimizeXZ_eq_ok_iff.mp optimized
  rw [same, Circuit.withGates_gates,
    Hardware.Costs.runningTime_of_native costs (native_runNative _ circuit.gates)] at timed
  rw [← Except.ok.inj timed]
  exact Capped.ofNat_cap_mono (costs.exactTime_mono (countP_runNative_le _ circuit.gates))

theorem exists_nativeRunningTime {costs : Hardware.Costs} (priced : settings.costs = .ok costs)
    (positive : settings.factor ≠ 0) (short : (expandAll circuit.gates).length < 2 ^ 63) :
    ∃ time, settings.nativeRunningTime circuit = .ok time := by
  rw [nativeRunningTime_eq priced (optimizeXZ_eq positive short), Circuit.withGates_gates,
    Hardware.Costs.runningTime_of_native costs (native_runNative _ circuit.gates)]
  exact ⟨_, rfl⟩

end Settings

/-- Optimising never costs time on any axis. A run leaves no more gates about any axis than there
were, and a native run no more than there were after the replacement. With positive costs the
replaced sequence has a running time: two Z rotations and one about X for each rotation about Y,
and the gates that were native before, cut off at 64 bits. No estimate for the circuit exceeds it,
and with a positive factor there is an estimate for every circuit that a memory can hold. Without
rotations about Y the bound is the running time of the circuit itself. -/
theorem optimizing_saves_time (circuit : Circuit) :
    (∀ factor axis,
      (run factor circuit.gates).gates.countP (·.axis = axis) ≤ circuit.countAbout axis ∧
      (runNative factor circuit.gates).gates.countP (·.axis = axis) ≤
        (expandAll circuit.gates).countP (·.axis = axis)) ∧
    (∀ settings : Settings, settings.costZ ≠ 0 → settings.costX ≠ 0 →
      let costs : Hardware.Costs := { z := settings.costZ, x := settings.costX }
      ∃ bound, costs.runningTime (expandAll circuit.gates) = .ok bound ∧
        bound.toNat =
          min (settings.costZ.toNat * (circuit.countAbout .z + 2 * circuit.countAbout .y) +
            settings.costX.toNat * (circuit.countAbout .x + circuit.countAbout .y)) (2 ^ 64 - 1) ∧
        (∀ time, settings.nativeRunningTime circuit = .ok time → time ≤ bound) ∧
        (settings.factor ≠ 0 → (expandAll circuit.gates).length < 2 ^ 63 →
          ∃ time, settings.nativeRunningTime circuit = .ok time) ∧
        ((∀ gate ∈ circuit.gates, gate.axis ≠ .y) →
          costs.runningTime circuit.gates = .ok bound)) := by
  refine ⟨?counts, ?estimates⟩
  case counts =>
    intro factor axis
    exact ⟨countP_run_le factor circuit.gates axis, countP_runNative_le factor circuit.gates axis⟩
  case estimates =>
    intro settings chargedZ chargedX costs
    have priced : settings.costs = .ok costs := Settings.costs_eq_ok chargedZ chargedX
    have timed := costs.runningTime_of_native (native_expandAll circuit.gates)
    refine ⟨_, timed, ?exact, fun _ => Settings.nativeRunningTime_le priced,
      Settings.exists_nativeRunningTime priced, ?native⟩
    case exact =>
      rw [Capped.toNat_ofNat_cap, costs.exactTime_expandAll, Capped.cap]
      rfl
    case native =>
      intro native
      rw [expandAll_of_native native] at timed ⊢
      exact timed

/-- A half turn about Y saves most of its time by the reduction. The second circuit has no such
rotation, and its time is cut off. -/
theorem optimizing_saves_time_of_turns :
    let circuit : Circuit := ⟨[.y 180, .x 90, .z 45], none⟩
    let settings : Settings := { costZ := 2, costX := 5 }
    let turns : Circuit := ⟨[.z 10, .x 90, .x 20, .z 5], none⟩
    let slow : Settings := { costZ := 18446744073709551615, costX := 3 }
    (settings.costZ ≠ 0 ∧ settings.costX ≠ 0 ∧ settings.factor ≠ 0 ∧
      (expandAll circuit.gates).length < 2 ^ 63 ∧
      settings.nativeRunningTime circuit = .ok 9 ∧
      ∃ bound, Hardware.Costs.runningTime { z := 2, x := 5 } (expandAll circuit.gates) = .ok bound ∧
        bound.toNat = 16 ∧ 9 ≤ bound ∧ ∃ time, settings.nativeRunningTime circuit = .ok time) ∧
    slow.costZ ≠ 0 ∧ slow.costX ≠ 0 ∧ (∀ gate ∈ turns.gates, gate.axis ≠ .y) ∧
      ∃ bound, Hardware.Costs.runningTime { z := 18446744073709551615, x := 3 } turns.gates =
          .ok bound ∧ bound.toNat = 2 ^ 64 - 1 := by
  intro circuit settings turns slow
  have chargedZ : settings.costZ ≠ 0 := by decide
  have chargedX : settings.costX ≠ 0 := by decide
  have positive : settings.factor ≠ 0 := by decide
  have short : (expandAll circuit.gates).length < 2 ^ 63 := by
    change 5 < 2 ^ 63
    omega
  have nine : settings.nativeRunningTime circuit = .ok 9 := by decide +kernel
  have slowZ : slow.costZ ≠ 0 := by decide
  have slowX : slow.costX ≠ 0 := by decide
  have native : ∀ gate ∈ turns.gates, gate.axis ≠ .y := by decide
  obtain ⟨bound, timed, exact, below, estimated, _⟩ :=
    (optimizing_saves_time circuit).2 settings chargedZ chargedX
  obtain ⟨slowBound, _, slowExact, _, _, slowTimed⟩ :=
    (optimizing_saves_time turns).2 slow slowZ slowX
  have cutOff : slowBound.toNat = 2 ^ 64 - 1 := slowExact.trans (by decide +kernel)
  exact ⟨⟨chargedZ, chargedX, positive, short, nine, bound, timed, exact, below 9 nine,
      estimated positive short⟩,
    slowZ, slowX, native, slowBound, slowTimed native, cutOff⟩

end QubitRotation
