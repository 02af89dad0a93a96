import QubitRotation.Proofs.Reduction.Convergence
import QubitRotation.Proofs.Reduction.Rewriting
import QubitRotation.Proofs.Reduction.Runs

/-!
# Where the budget cuts a run off

The budget decides after how many iterations a run is given up, and nothing else. A run that
converged has found the end of its sequence: with more iterations to go it is the same run, tally
and firings included (`runFrom_of_converged`). Since all positive factors are enough for every
sequence that fits in memory, and give the same budget beyond, they all lead to the same run
(`run_eq_of_pos`).

A run that was given up has only gone part of the way. An iteration depends on nothing but the
sequence, so `Advances` is a function, and two ways from one sequence to where no rule fires end
in the same place (`eq_of_advances`). Taking up what was left behind leads there as well
(`gates_run_of_partial`).
-/

namespace QubitRotation.Reduction

/-! ## Budgets that suffice -/

/-- More iterations to go change nothing about a run that converged. -/
theorem runFrom_of_converged {remaining more : Nat} (le : remaining ≤ more) {tally final : Tally}
    {gates : List Gate} (converged : (runFrom remaining tally gates).outcome = .ok final) :
    runFrom more tally gates = runFrom remaining tally gates := by
  induction remaining generalizing more tally gates with
  | zero => cases converged
  | succ remaining ih =>
      obtain ⟨more, rfl⟩ := Nat.exists_eq_add_one.mpr (Nat.lt_of_lt_of_le remaining.succ_pos le)
      cases active : active? gates with
      | none => rw [runFrom_of_inactive active, runFrom_of_inactive active]
      | some rule =>
          rw [runFrom_of_active active] at converged
          rw [runFrom_of_active active, runFrom_of_active active,
            ih (Nat.le_of_succ_le_succ le) converged]

section Factors

variable {factor larger : Nat} {gates : List Gate} {final : Tally}

theorem run_of_converged (le : factor ≤ larger)
    (converged : (run factor gates).outcome = .ok final) : run larger gates = run factor gates :=
  runFrom_of_converged (budget_mono le (Nat.le_refl _)) converged

theorem runNative_of_converged (le : factor ≤ larger)
    (converged : (runNative factor gates).outcome = .ok final) :
    runNative larger gates = runNative factor gates := by
  obtain ⟨inner, inside, _⟩ := converged_of_native converged
  rw [runNative, runNative, run_of_converged le inside]

/-- Every positive factor does what the least one does. -/
theorem run_eq_run_one (positive : 0 < factor) (gates : List Gate) :
    run factor gates = run 1 gates := by
  obtain short | long := Nat.lt_or_ge gates.length (2 ^ 63)
  · obtain ⟨final, converged, _⟩ := (run_bounded 1 gates).converged Nat.one_pos short
    exact run_of_converged positive converged
  · rw [run, run, budget_of_long positive long, budget_of_long Nat.one_pos long]

theorem run_eq_of_pos {other : Nat} (positive : 0 < factor) (otherPositive : 0 < other)
    (gates : List Gate) : run factor gates = run other gates :=
  (run_eq_run_one positive gates).trans (run_eq_run_one otherPositive gates).symm

theorem runNative_eq_of_pos {other : Nat} (positive : 0 < factor) (otherPositive : 0 < other)
    (gates : List Gate) : runNative factor gates = runNative other gates := by
  rw [runNative, runNative, run_eq_of_pos positive otherPositive]

end Factors

/-! ## Budgets that do not -/

/-- An iteration that changes something takes one sequence to the other. -/
def Advances (before after : List Gate) : Prop :=
  ∃ rule, active? before = some rule ∧ (rule.pass before).gates = after

theorem advances_rightUnique : Relator.RightUnique Advances := by
  rintro before _ _ ⟨rule, active, rfl⟩ ⟨again, alsoActive, rfl⟩
  have same : rule = again := Option.some.inj (active.symm.trans alsoActive)
  rw [same]

/-- Wherever a run stops, iterations lead there. -/
theorem advances_runFrom (remaining : Nat) (tally : Tally) (gates : List Gate) :
    Relation.ReflTransGen Advances gates (runFrom remaining tally gates).gates := by
  induction remaining generalizing tally gates with
  | zero => exact .refl
  | succ remaining ih =>
      cases active : active? gates with
      | none => rw [runFrom_of_inactive active]
      | some rule =>
          rw [runFrom_of_active active]
          exact .head ⟨rule, active, rfl⟩ (ih _ _)

theorem advances_run (factor : Nat) (gates : List Gate) :
    Relation.ReflTransGen Advances gates (run factor gates).gates :=
  advances_runFrom _ _ gates

section Ends

variable {gates left right : List Gate}

theorem eq_of_inactive (inactive : active? gates = none)
    (onward : Relation.ReflTransGen Advances gates left) : left = gates := by
  obtain rfl | ⟨_, ⟨rule, active, _⟩, _⟩ := onward.cases_head
  · rfl
  · rw [inactive] at active
    cases active

/-- A sequence has only one end. -/
theorem eq_of_advances (toLeft : Relation.ReflTransGen Advances gates left)
    (toRight : Relation.ReflTransGen Advances gates right)
    (leftInactive : active? left = none) (rightInactive : active? right = none) :
    left = right := by
  obtain onward | onward :=
    Relation.ReflTransGen.total_of_right_unique advances_rightUnique toLeft toRight
  · exact (eq_of_inactive leftInactive onward).symm
  · exact eq_of_inactive rightInactive onward

end Ends

/-- A converged run ends wherever iterations lead to where no rule fires. -/
theorem gates_run_of_advances {factor : Nat} {gates left : List Gate} {final : Tally}
    (converged : (run factor gates).outcome = .ok final)
    (onward : Relation.ReflTransGen Advances gates left) (inactive : active? left = none) :
    (run factor gates).gates = left :=
  eq_of_advances (advances_run factor gates) onward (inactive_of_converged converged) inactive

/-- Two converged runs, of a sequence and of what any run left of it, end in the same place. -/
theorem gates_run_of_partial {factor again whole : Nat} {gates : List Gate} {resumed final : Tally}
    (converged : (run whole gates).outcome = .ok final)
    (resumes : (run again (run factor gates).gates).outcome = .ok resumed) :
    (run again (run factor gates).gates).gates = (run whole gates).gates := by
  have toLeft := (advances_run factor gates).trans (advances_run again (run factor gates).gates)
  exact eq_of_advances toLeft (advances_run whole gates) (inactive_of_converged resumes)
    (inactive_of_converged converged)

/-- Wherever a run was cut off, a positive factor takes it to the end. -/
theorem run_resumes {again : Nat} (positive : 0 < again) (factor : Nat) {gates : List Gate}
    (short : gates.length < 2 ^ 63) :
    (∃ resumed, (run again (run factor gates).gates).outcome = .ok resumed) ∧
      (∃ final, (run again gates).outcome = .ok final) ∧
      (run again (run factor gates).gates).gates = (run again gates).gates := by
  have fewer : (run factor gates).gates.length ≤ gates.length :=
    (rewrites_run factor gates).length_le
  obtain ⟨resumed, resumes, _⟩ :=
    (run_bounded again (run factor gates).gates).converged positive (fewer.trans_lt short)
  obtain ⟨final, converged, _⟩ := (run_bounded again gates).converged positive short
  exact ⟨⟨resumed, resumes⟩, ⟨final, converged⟩, gates_run_of_partial converged resumes⟩

end QubitRotation.Reduction
