import QubitRotation.Proofs.Optimization.Outcome
import QubitRotation.Proofs.Reduction.FixedPoint
import QubitRotation.Proofs.Reduction.Rewriting

/-!
# Optimising twice

Every run that converges ends in a reduced sequence, and a reduced sequence is left alone by every
further run. So optimising is done once and for all: a circuit optimised for the hardware stays as
it is when it is optimised again, for the hardware or with all axes, under whatever settings
(`optimizations_of_reduced`). `run_reaches_fixed_point` collects what is known of the sequences
in which runs end.
-/

namespace QubitRotation

open Reduction

/-- No settings change a circuit of reduced rotations about X and Z. -/
theorem Settings.optimizations_of_reduced {circuit : Circuit} (reduced : Reduced circuit.gates)
    (native : ∀ gate ∈ circuit.gates, gate.axis ≠ .y) (settings : Settings) :
    settings.optimizeXZ circuit = .ok circuit ∧ settings.optimizeXY circuit = .ok circuit := by
  rw [optimizeXZ_eq_ok_iff, optimizeXY_eq_ok_iff, runNative_of_native native, reduced.run_eq]
  exact ⟨⟨⟨_, rfl⟩, rfl⟩, ⟨⟨_, rfl⟩, rfl⟩⟩

/-- Where runs end. A run with a positive factor converges, on every sequence that a memory can
hold. What a converged run leaves is reduced: no rule fires on it, and any further run, whatever
its factor, is over after one iteration. A converged run changes nothing exactly if no rule fired,
if the length is the same, or if the sequence was reduced before. Without rotations about Y a
native run is the same as a run; so optimising for the hardware is idempotent, and optimising with
all axes adds nothing to it. -/
theorem run_reaches_fixed_point (factor : Nat) (gates : List Gate) :
    (0 < factor → gates.length < 2 ^ 63 → ∃ final, (run factor gates).outcome = .ok final) ∧
    (∀ final, (run factor gates).outcome = .ok final →
      Reduced (run factor gates).gates ∧
      (∀ rule : Rule, rule.apply (run factor gates).gates = .ok ⟨0, (run factor gates).gates⟩) ∧
      (∀ again, ∃ tally,
        run again (run factor gates).gates =
          { gates := (run factor gates).gates, outcome := .ok tally } ∧
        tally.firings = 0 ∧ tally.iterations = 1) ∧
      [(run factor gates).gates = gates,
        final.firings = 0,
        (run factor gates).gates.length = gates.length,
        (Circuit.ofGates gates).isFullyMerged = true ∧ reflectionSite? gates = none].TFAE) ∧
    ((∀ gate ∈ gates, gate.axis ≠ .y) → runNative factor gates = run factor gates) ∧
    (∀ (settings : Settings) (circuit : Circuit),
      settings.factor ≠ 0 → (expandAll circuit.gates).length < 2 ^ 63 →
      ∃ native, settings.optimizeXZ circuit = .ok native) ∧
    (∀ (settings : Settings) (circuit native : Circuit),
      settings.optimizeXZ circuit = .ok native →
      ∀ again : Settings,
        again.optimizeXZ native = .ok native ∧ again.optimizeXY native = .ok native) := by
  refine ⟨?converges, ?fixed, fun native => runNative_of_native native factor, ?optimizes, ?stays⟩
  case converges =>
    intro positive short
    obtain ⟨final, converged, _⟩ := (run_bounded factor gates).converged positive short
    exact ⟨final, converged⟩
  case fixed =>
    intro final converged
    have reduced := reduced_of_converged converged
    exact ⟨reduced, reduced.apply_eq, reduced.run_idle, run_unchanged_tfae converged⟩
  case optimizes =>
    intro settings circuit positive short
    exact ⟨_, Settings.optimizeXZ_eq positive short⟩
  case stays =>
    intro settings circuit native finished
    obtain ⟨⟨tally, converged⟩, rfl⟩ := Settings.optimizeXZ_eq_ok_iff.mp finished
    apply Settings.optimizations_of_reduced
    · rw [Circuit.withGates_gates]
      exact reduced_of_native_converged converged
    · rw [Circuit.withGates_gates]
      exact native_runNative _ _

/-- A half turn between two quarter turns looks finished and is not: it moves to the front, and
the quarter turns cancel. Only what is left then is a fixed point. -/
theorem run_reaches_fixed_point_of_half_turn :
    let gates : List Gate := [.x 90, .z 180, .x 90]
    let left : List Gate := [.z 180]
    (Circuit.ofGates gates).isFullyMerged = true ∧
    (0 < 1 ∧ gates.length < 2 ^ 63 ∧ ∃ final, (run 1 gates).outcome = .ok final) ∧
    (∃ final, (run 1 gates).outcome = .ok final ∧ final.firings ≠ 0 ∧
      (run 1 gates).gates = left ∧ Reduced left) ∧
    ((∀ gate ∈ gates, gate.axis ≠ .y) ∧ runNative 1 gates = run 1 gates) ∧
    (({} : Settings).factor ≠ 0 ∧ (expandAll gates).length < 2 ^ 63 ∧
      ∃ native, Settings.optimizeXZ {} ⟨gates, none⟩ = .ok native) ∧
    Settings.optimizeXZ {} ⟨gates, none⟩ = .ok ⟨left, none⟩ ∧
      Settings.optimizeXZ {} ⟨left, none⟩ = .ok ⟨left, none⟩ ∧
      Settings.optimizeXY {} ⟨left, none⟩ = .ok ⟨left, none⟩ := by
  intro gates left
  have statement := run_reaches_fixed_point 1 gates
  have three : 3 < 2 ^ 63 := by omega
  have converged := statement.1 Nat.one_pos three
  have leaves : (run 1 gates).gates = left := by decide +kernel
  have native : ∀ gate ∈ gates, gate.axis ≠ .y := by decide
  have factor : ({} : Settings).factor ≠ 0 := by decide
  have optimized : Settings.optimizeXZ {} ⟨gates, none⟩ = .ok ⟨left, none⟩ := by decide +kernel
  refine ⟨by decide +kernel, ⟨Nat.one_pos, three, converged⟩, ?_,
    ⟨native, statement.2.2.1 native⟩,
    ⟨factor, three, statement.2.2.2.1 {} ⟨gates, none⟩ factor three⟩,
    optimized, statement.2.2.2.2 {} ⟨gates, none⟩ _ optimized {}⟩
  obtain ⟨final, finished⟩ := converged
  obtain ⟨reduced, _, _, unchanged⟩ := statement.2.1 final finished
  rw [leaves] at reduced unchanged
  refine ⟨final, finished, ?_, leaves, reduced⟩
  exact (unchanged.out 1 0).not.mpr (by decide)

end QubitRotation
