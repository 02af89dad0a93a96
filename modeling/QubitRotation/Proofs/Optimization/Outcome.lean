import QubitRotation.Optimization
import QubitRotation.Proofs.Reduction.Convergence

/-!
# Which circuit an optimisation returns

To optimise a circuit is to run the reduction on its gates: the gates that the run leaves, under
the name of the circuit, are returned if the run converged. The equivalences here say so for both
kinds of optimisation, so that proofs about circuits become proofs about runs. With a positive
factor every run converges (`run_converged_of_factor`, `runNative_converged_of_factor`), unless the
circuit has more gates than any memory could hold.
-/

namespace QubitRotation

open Reduction

namespace Circuit

variable {circuit reduced : Circuit} {run : Run} {tally : Tally}

@[simp] theorem size_withGates (gates : List Gate) :
    (circuit.withGates gates).size = gates.length := rfl

theorem afterRun_eq_ok_iff :
    circuit.afterRun run = .ok (reduced, tally) ↔
      run.outcome = .ok tally ∧ reduced = circuit.withGates run.gates := by
  unfold afterRun
  constructor
  · intro finished
    cases outcome : run.outcome with
    | error fault =>
        rw [outcome] at finished
        cases finished
    | ok final =>
        rw [outcome] at finished
        cases finished
        exact ⟨rfl, rfl⟩
  · rintro ⟨outcome, rfl⟩
    rw [outcome]
    rfl

theorem fst_afterRun_eq_ok_iff :
    (circuit.afterRun run).map Prod.fst = .ok reduced ↔
      (∃ tally, run.outcome = .ok tally) ∧ reduced = circuit.withGates run.gates := by
  constructor
  · intro finished
    cases after : circuit.afterRun run with
    | error fault =>
        rw [after] at finished
        cases finished
    | ok result =>
        rw [after] at finished
        cases finished
        obtain ⟨outcome, left⟩ := afterRun_eq_ok_iff.mp after
        exact ⟨⟨result.2, outcome⟩, left⟩
  · rintro ⟨⟨tally, outcome⟩, left⟩
    rw [afterRun_eq_ok_iff.mpr ⟨outcome, left⟩]
    rfl

theorem reduce_of_converged {factor : Nat}
    (converged : (Reduction.run factor circuit.gates).outcome = .ok tally) :
    circuit.reduce factor =
      .ok (circuit.withGates (Reduction.run factor circuit.gates).gates, tally) :=
  afterRun_eq_ok_iff.mpr ⟨converged, rfl⟩

theorem reduceNative_of_converged {factor : Nat}
    (converged : (runNative factor circuit.gates).outcome = .ok tally) :
    circuit.reduceNative factor =
      .ok (circuit.withGates (runNative factor circuit.gates).gates, tally) :=
  afterRun_eq_ok_iff.mpr ⟨converged, rfl⟩

theorem gates_of_reduce {factor : Nat} (finished : circuit.reduce factor = .ok (reduced, tally)) :
    reduced.gates = (Reduction.run factor circuit.gates).gates := by
  obtain ⟨_, rfl⟩ := afterRun_eq_ok_iff.mp finished
  rw [withGates_gates]

end Circuit

namespace Settings

variable {settings : Settings} {circuit reduced : Circuit}

theorem optimizeXY_eq_ok_iff :
    settings.optimizeXY circuit = .ok reduced ↔
      (∃ tally, (run settings.factor.toNat circuit.gates).outcome = .ok tally) ∧
        reduced = circuit.withGates (run settings.factor.toNat circuit.gates).gates :=
  Circuit.fst_afterRun_eq_ok_iff

theorem optimizeXZ_eq_ok_iff :
    settings.optimizeXZ circuit = .ok reduced ↔
      (∃ tally, (runNative settings.factor.toNat circuit.gates).outcome = .ok tally) ∧
        reduced = circuit.withGates (runNative settings.factor.toNat circuit.gates).gates :=
  Circuit.fst_afterRun_eq_ok_iff

theorem gates_of_optimizeXY (finished : settings.optimizeXY circuit = .ok reduced) :
    reduced.gates = (run settings.factor.toNat circuit.gates).gates := by
  obtain ⟨_, rfl⟩ := optimizeXY_eq_ok_iff.mp finished
  rw [Circuit.withGates_gates]

theorem factor_pos (positive : settings.factor ≠ 0) : 0 < settings.factor.toNat := by
  apply Nat.pos_of_ne_zero
  intro zero
  exact positive (UInt64.toNat_inj.mp zero)

theorem run_converged_of_factor (positive : settings.factor ≠ 0)
    (short : circuit.gates.length < 2 ^ 63) :
    ∃ final, (run settings.factor.toNat circuit.gates).outcome = .ok final := by
  obtain ⟨final, converged, _⟩ :=
    (run_bounded settings.factor.toNat circuit.gates).converged (factor_pos positive) short
  exact ⟨final, converged⟩

theorem runNative_converged_of_factor (positive : settings.factor ≠ 0)
    (short : (expandAll circuit.gates).length < 2 ^ 63) :
    ∃ final, (runNative settings.factor.toNat circuit.gates).outcome = .ok final := by
  obtain ⟨final, converged, _⟩ :=
    (runNative_bounded settings.factor.toNat circuit.gates).converged (factor_pos positive) short
  exact ⟨final, converged⟩

theorem optimizeXZ_eq (positive : settings.factor ≠ 0)
    (short : (expandAll circuit.gates).length < 2 ^ 63) :
    settings.optimizeXZ circuit =
      .ok (circuit.withGates (runNative settings.factor.toNat circuit.gates).gates) :=
  optimizeXZ_eq_ok_iff.mpr ⟨runNative_converged_of_factor positive short, rfl⟩

end Settings

end QubitRotation
