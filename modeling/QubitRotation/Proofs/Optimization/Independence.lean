import QubitRotation.Proofs.Optimization.Report
import QubitRotation.Proofs.Reduction.Cutoff

/-!
# What does not depend on the settings

The factor of the budget only has to be positive, which valid settings see to. So all valid
settings lead to the same circuits, and to the same running time where the costs are the same; the
operations on circuits themselves, which use the default settings, lead there too
(`Circuit.optimizeXY_eq_of_factor` and its counterparts). `budget_only_guards` adds what is known of
runs for which the budget was too small.
-/

namespace QubitRotation

open Reduction

namespace Settings

theorem default_factor_ne_zero : ({} : Settings).factor ≠ 0 := by decide

variable {settings other : Settings}

theorem optimizeXY_eq_of_factors (positive : settings.factor ≠ 0) (alsoPositive : other.factor ≠ 0)
    (circuit : Circuit) : settings.optimizeXY circuit = other.optimizeXY circuit := by
  rw [optimizeXY, optimizeXY, Circuit.reduce, Circuit.reduce,
    run_eq_of_pos (factor_pos positive) (factor_pos alsoPositive)]

theorem optimizeXZ_eq_of_factors (positive : settings.factor ≠ 0) (alsoPositive : other.factor ≠ 0)
    (circuit : Circuit) : settings.optimizeXZ circuit = other.optimizeXZ circuit := by
  rw [optimizeXZ, optimizeXZ, Circuit.reduceNative, Circuit.reduceNative,
    runNative_eq_of_pos (factor_pos positive) (factor_pos alsoPositive)]

theorem nativeRunningTime_eq_of_factors (positive : settings.factor ≠ 0)
    (alsoPositive : other.factor ≠ 0) (sameZ : settings.costZ = other.costZ)
    (sameX : settings.costX = other.costX) (circuit : Circuit) :
    settings.nativeRunningTime circuit = other.nativeRunningTime circuit := by
  rw [nativeRunningTime, nativeRunningTime, costs, costs, sameZ, sameX,
    optimizeXZ_eq_of_factors positive alsoPositive]

end Settings

namespace Circuit

variable {settings : Settings}

theorem optimizeXY_eq_of_factor (positive : settings.factor ≠ 0) (circuit : Circuit) :
    circuit.optimizeXY = settings.optimizeXY circuit :=
  Settings.optimizeXY_eq_of_factors Settings.default_factor_ne_zero positive circuit

theorem optimizeXZ_eq_of_factor (positive : settings.factor ≠ 0) (circuit : Circuit) :
    circuit.optimizeXZ = settings.optimizeXZ circuit :=
  Settings.optimizeXZ_eq_of_factors Settings.default_factor_ne_zero positive circuit

theorem nativeRunningTime_eq_of_factor (positive : settings.factor ≠ 0) (circuit : Circuit) :
    circuit.nativeRunningTime settings.costZ settings.costX =
      settings.nativeRunningTime circuit := by
  have priced : (Settings.withCosts {} settings.costZ settings.costX).factor ≠ 0 :=
    Settings.default_factor_ne_zero
  exact Settings.nativeRunningTime_eq_of_factors priced positive rfl rfl circuit

end Circuit

/-- The budget is only a guard. A run that converged under some factor is the same run under every
larger one; so all positive factors give the same run, and the operations on a circuit agree with
those under any valid settings. A run that failed used up exactly its budget and names the length
it started from; what it left behind is led by every positive factor to the sequence in which the
whole run ends. -/
theorem budget_only_guards (gates : List Gate) :
    (∀ factor larger, factor ≤ larger →
      (∀ final, (run factor gates).outcome = .ok final → run larger gates = run factor gates) ∧
      (∀ final, (runNative factor gates).outcome = .ok final →
        runNative larger gates = runNative factor gates)) ∧
    (∀ factor other, 0 < factor → 0 < other →
      run factor gates = run other gates ∧ runNative factor gates = runNative other gates) ∧
    (∀ (settings : Settings) (name : Option String), settings.check = .ok () →
      let circuit : Circuit := ⟨gates, name⟩
      circuit.optimizeXY = settings.optimizeXY circuit ∧
      circuit.optimizeXZ = settings.optimizeXZ circuit ∧
      circuit.nativeRunningTime settings.costZ settings.costX =
        settings.nativeRunningTime circuit) ∧
    (∀ factor fault, (run factor gates).outcome = .error fault →
      fault = .iterationsExceeded (budget factor gates.length) gates.length ∧
      (gates.length < 2 ^ 63 → ∀ again, 0 < again →
        (∃ resumed, (run again (run factor gates).gates).outcome = .ok resumed) ∧
        (∃ final, (run again gates).outcome = .ok final) ∧
        (run again (run factor gates).gates).gates = (run again gates).gates)) := by
  refine ⟨?larger, ?positive, ?settings, ?exhausted⟩
  case larger =>
    intro factor larger le
    exact ⟨fun _ => run_of_converged le, fun _ => runNative_of_converged le⟩
  case positive =>
    intro factor other positive otherPositive
    exact ⟨run_eq_of_pos positive otherPositive gates,
      runNative_eq_of_pos positive otherPositive gates⟩
  case settings =>
    intro settings name valid circuit
    obtain ⟨_, _, positive⟩ := Settings.check_eq_ok_iff.mp valid
    exact ⟨circuit.optimizeXY_eq_of_factor positive, circuit.optimizeXZ_eq_of_factor positive,
      circuit.nativeRunningTime_eq_of_factor positive⟩
  case exhausted =>
    intro factor fault failed
    obtain ⟨named, _⟩ := (run_bounded factor gates).exhausted failed
    exact ⟨named, fun short again positive => run_resumes positive factor short⟩

/-- Six pairs of half turns are too many for the least budget and not for any other. The two
gates about X and Z that it leaves have still to be found to do nothing. -/
theorem budget_only_guards_of_half_turns :
    let gates := (List.replicate 6 [Gate.x 180, .z 180]).flatten ++ [.y 90]
    let settings : Settings := { costZ := 2, costX := 5, factor := 9, verbose := true }
    let circuit : Circuit := ⟨gates, none⟩
    (1 ≤ 3 ∧ (∃ final, (run 1 gates).outcome = .ok final) ∧ run 3 gates = run 1 gates) ∧
    (0 < 2 ∧ 0 < 7 ∧ runNative 2 gates = runNative 7 gates) ∧
    (settings.check = .ok () ∧
      circuit.nativeRunningTime 2 5 = settings.nativeRunningTime circuit) ∧
    (run 0 gates).outcome = .error (.iterationsExceeded 16 13) ∧
    (run 0 gates).gates = [.z 0, .x 0, .y 90] ∧
    gates.length < 2 ^ 63 ∧ 0 < 1 ∧
    (run 1 [.z 0, .x 0, .y 90]).gates = (run 1 gates).gates := by
  intro gates settings circuit
  obtain ⟨larger, positive, valid, exhausted⟩ := budget_only_guards gates
  have short : gates.length < 2 ^ 63 := by
    change 13 < 2 ^ 63
    omega
  have failed : (run 0 gates).outcome = .error (.iterationsExceeded 16 13) := by decide +kernel
  have left : (run 0 gates).gates = [.z 0, .x 0, .y 90] := by decide +kernel
  have accepted : settings.check = .ok () := by decide
  obtain ⟨_, ⟨final, converged⟩, same⟩ := (exhausted 0 _ failed).2 short 1 Nat.one_pos
  rw [left] at same
  exact ⟨⟨by decide, ⟨final, converged⟩, (larger 1 3 (by decide)).1 final converged⟩,
    ⟨by decide, by decide, (positive 2 7 (by decide) (by decide)).2⟩,
    ⟨accepted, (valid settings none accepted).2.2⟩, failed, left, short, Nat.one_pos, same⟩

end QubitRotation
