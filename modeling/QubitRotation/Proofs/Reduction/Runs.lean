import QubitRotation.Proofs.Reduction.Passes
import QubitRotation.Proofs.Reduction.Replacement

/-!
# Converged runs

A run passes through states, each a tally together with a sequence. If it converges it ends at
the first state in which no rule fires. `runFrom_converged` is the induction over these states:
what holds of the first one, and is kept whenever the active rule is applied, holds of the last.
The final tally is the one of that state, with the iteration that found nothing to do counted in.

What a converged run says about the sizes of its sequences follows at once, and so does that a
native run of a sequence without rotations about Y is an ordinary run.
-/

namespace QubitRotation.Reduction

/-- Induction over the states of a converged run. -/
theorem runFrom_converged {motive : Tally → List Gate → Prop}
    (kept : ∀ tally gates rule, active? gates = some rule → motive tally gates →
      motive (tally.iterate.record rule (rule.pass gates).count) (rule.pass gates).gates)
    {remaining : Nat} {tally final : Tally} {gates : List Gate} (start : motive tally gates)
    (converged : (runFrom remaining tally gates).outcome = .ok final) :
    ∃ last, motive last (runFrom remaining tally gates).gates ∧
      active? (runFrom remaining tally gates).gates = none ∧
      final = last.finish (runFrom remaining tally gates).gates.length := by
  induction remaining generalizing tally gates with
  | zero => cases converged
  | succ remaining ih =>
      cases active : active? gates with
      | none =>
          rw [runFrom_of_inactive active] at converged ⊢
          cases converged
          exact ⟨tally, start, active, rfl⟩
      | some rule =>
          rw [runFrom_of_active active] at converged ⊢
          exact ih (kept tally gates rule active start) converged

section Run

variable {factor : Nat} {gates : List Gate} {final : Tally}

/-- The induction for a run from the start. -/
theorem run_converged {motive : Tally → List Gate → Prop}
    (kept : ∀ tally gates rule, active? gates = some rule → motive tally gates →
      motive (tally.iterate.record rule (rule.pass gates).count) (rule.pass gates).gates)
    (start : motive (.start gates.length) gates)
    (converged : (run factor gates).outcome = .ok final) :
    ∃ last, motive last (run factor gates).gates ∧
      active? (run factor gates).gates = none ∧
      final = last.finish (run factor gates).gates.length :=
  runFrom_converged kept start converged

/-- A converged run stops at a sequence on which no rule fires. -/
theorem inactive_of_converged (converged : (run factor gates).outcome = .ok final) :
    active? (run factor gates).gates = none := by
  obtain ⟨_, _, inactive, _⟩ :=
    run_converged (motive := fun _ _ => True) (fun _ _ _ _ _ => trivial) trivial converged
  exact inactive

/-- A converged run names the sizes of the sequence before and after it. It replaced nothing. -/
theorem sizes_of_converged (converged : (run factor gates).outcome = .ok final) :
    final.gatesBefore = gates.length ∧ final.gatesAfter = (run factor gates).gates.length ∧
      final.substitutions = 0 := by
  obtain ⟨last, ⟨before, substitutions⟩, _, rfl⟩ := run_converged
    (motive := fun tally _ => tally.gatesBefore = gates.length ∧ tally.substitutions = 0)
    (fun _ _ _ _ held => by simpa using held) ⟨rfl, rfl⟩ converged
  rw [Tally.finish_gatesBefore, Tally.finish_gatesAfter, Tally.finish_substitutions]
  exact ⟨before, rfl, substitutions⟩

/-- A converged native run is a converged run of the replaced sequence, with two counts of the
tally set to those of the sequence before the replacement. -/
theorem converged_of_native (converged : (runNative factor gates).outcome = .ok final) :
    ∃ inner, (run factor (expandAll gates)).outcome = .ok inner ∧
      final = { inner with gatesBefore := gates.length, substitutions := countY gates } := by
  rw [outcome_runNative] at converged
  cases outcome : (run factor (expandAll gates)).outcome with
  | error fault =>
      rw [outcome] at converged
      cases converged
  | ok inner =>
      rw [outcome] at converged
      cases converged
      exact ⟨inner, rfl, rfl⟩

/-- A converged native run names the sizes before the replacement and after the run. -/
theorem sizes_of_native_converged (converged : (runNative factor gates).outcome = .ok final) :
    final.gatesBefore = gates.length ∧
      final.gatesAfter = (runNative factor gates).gates.length ∧
      final.substitutions = countY gates := by
  obtain ⟨inner, inside, rfl⟩ := converged_of_native converged
  obtain ⟨_, after, _⟩ := sizes_of_converged inside
  rw [gates_runNative]
  exact ⟨rfl, after, rfl⟩

end Run

/-! ## Runs without rotations about Y -/

/-- Without rotations about Y a native run is a run, tally and firings included. -/
theorem runNative_of_native {gates : List Gate} (native : ∀ gate ∈ gates, gate.axis ≠ .y)
    (factor : Nat) : runNative factor gates = run factor gates := by
  rw [runNative, expandAll_of_native native, countY_of_native native]
  cases outcome : (run factor gates).outcome with
  | error fault =>
      rw [Except.map, ← outcome]
  | ok final =>
      obtain ⟨before, _, substitutions⟩ := sizes_of_converged outcome
      rw [Except.map, ← before, ← substitutions, ← outcome]

end QubitRotation.Reduction
