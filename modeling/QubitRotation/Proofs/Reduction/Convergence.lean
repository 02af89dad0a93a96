import QubitRotation.Proofs.Reduction.Budget
import QubitRotation.Proofs.Reduction.Passes
import QubitRotation.Proofs.Reduction.Replacement

/-!
# Every run converges within its budget

A reflection leaves the length of a sequence as it is, so the length alone does not bound a run.
But a step only reflects a sequence whose axes alternate, and afterwards they do not; the next
step then merges. `potential` counts each gate twice and alternation once, and every step lowers
it (`potential_pass_lt`). A run of `n` gates therefore needs at most `2 * n + 1` iterations.

The budget of a positive factor covers `2 * n + 1` iterations as long as that number fits in 64
bits. `run_converges` puts the two together.
-/

namespace QubitRotation

namespace Reduction

open Circuit (alternates)

/-! ## The potential -/

/-- Two for each gate, and one more where the axes alternate. -/
def potential (gates : List Gate) : Nat :=
  2 * gates.length + if alternates gates then 1 else 0

theorem potential_le (gates : List Gate) : potential gates ≤ 2 * gates.length + 1 := by
  unfold potential
  split <;> omega

theorem potential_of_alternates {gates : List Gate} (alternating : alternates gates = true) :
    potential gates = 2 * gates.length + 1 := by
  rw [potential, if_pos alternating]

theorem potential_of_not_alternates {gates : List Gate} (joined : ¬alternates gates = true) :
    potential gates = 2 * gates.length := by
  rw [potential, if_neg joined, Nat.add_zero]

theorem potential_pos (gates : List Gate) : 0 < potential gates := by
  cases gates with
  | nil => exact Nat.one_pos
  | cons gate gates =>
      rw [potential, List.length_cons]
      omega

/-- Every step lowers the potential. A reflection pays with the alternation of the axes, the
other rules with the gates that they remove. -/
theorem potential_pass_lt {gates : List Gate} {rule : Rule} (active : active? gates = some rule) :
    potential (rule.pass gates).gates < potential gates := by
  have fires := count_pos_of_active active
  cases rule with
  | merge =>
      change 0 < (fuseRuns gates).count at fires
      change potential (fuseRuns gates).gates < _
      have joined : ¬alternates gates = true := mt fuseRuns_count_eq_zero.mpr fires.ne'
      have shorter := fuseRuns_count_add_length gates
      rw [potential_of_not_alternates joined, potential_of_alternates (alternates_fuseRuns gates)]
      omega
  | reflection =>
      change 0 < (reflection gates).count at fires
      change potential (reflection gates).gates < _
      have alternating := alternates_of_active active (by decide)
      obtain ⟨moved, found, fired⟩ | ⟨_, idle⟩ := reflection_cases gates
      · have joined : ¬alternates moved = true := not_alternates_of_reflectFrom found
        rw [fired, potential_of_not_alternates joined, potential_of_alternates alternating,
          length_of_reflectFrom found]
        exact Nat.lt_succ_self _
      · rw [idle] at fires
        exact absurd fires (Nat.lt_irrefl 0)
  | identityElimination =>
      change 0 < (identityElimination gates).count at fires
      change potential (identityElimination gates).gates < _
      have alternating := alternates_of_active active (by decide)
      have shorter := identityElimination_count_add_length gates
      have bound := potential_le (identityElimination gates).gates
      rw [potential_of_alternates alternating]
      omega

/-! ## Runs -/

/-- A run converges within its potential, or its iterations are fewer and it uses them all up.
There is no third outcome. -/
theorem runFrom_cases (remaining : Nat) (tally : Tally) (gates : List Gate) :
    (∃ final, (runFrom remaining tally gates).outcome = .ok final ∧
        final.iterations ≤ tally.iterations + potential gates) ∨
      ((runFrom remaining tally gates).outcome =
          .error (.iterationsExceeded (tally.iterations + remaining) tally.gatesBefore) ∧
        remaining < potential gates) := by
  induction remaining generalizing tally gates with
  | zero => exact .inr ⟨rfl, potential_pos gates⟩
  | succ remaining ih =>
      cases active : active? gates with
      | none =>
          rw [runFrom_of_inactive active]
          exact .inl ⟨_, rfl, Nat.add_le_add_left (potential_pos gates) _⟩
      | some rule =>
          have lower := potential_pass_lt active
          have later := ih (tally.iterate.record rule (rule.pass gates).count)
            (rule.pass gates).gates
          simp only [Tally.record_iterations, Tally.iterate_iterations, Tally.record_gatesBefore,
            Tally.iterate_gatesBefore] at later
          rw [runFrom_of_active active]
          obtain ⟨final, converged, bound⟩ | ⟨exhausted, bound⟩ := later
          · exact .inl ⟨final, converged, by omega⟩
          · rw [Nat.add_assoc, Nat.add_comm 1] at exhausted
            exact .inr ⟨exhausted, Nat.lt_of_le_of_lt bound lower⟩

/-- The outcome of a run over `length` gates is bounded if it converged within
`2 * length + 1` iterations or reports that a smaller budget is used up. -/
def BoundedOutcome (factor length : Nat) (outcome : Except Fault Tally) : Prop :=
  (∃ final, outcome = .ok final ∧ final.iterations ≤ 2 * length + 1) ∨
    (outcome = .error (.iterationsExceeded (budget factor length) length) ∧
      budget factor length < 2 * length + 1)

namespace BoundedOutcome

variable {factor length : Nat} {outcome : Except Fault Tally}

theorem converged (bounded : BoundedOutcome factor length outcome) (positive : 0 < factor)
    (short : length < 2 ^ 63) :
    ∃ final, outcome = .ok final ∧ final.iterations ≤ 2 * length + 1 := by
  obtain converged | ⟨_, below⟩ := bounded
  · exact converged
  · exact absurd (le_budget positive short) (Nat.not_le.mpr below)

theorem exhausted (bounded : BoundedOutcome factor length outcome) {fault : Fault}
    (failed : outcome = .error fault) :
    fault = .iterationsExceeded (budget factor length) length ∧
      budget factor length < 2 * length + 1 := by
  obtain ⟨final, converged, _⟩ | ⟨exhausted, below⟩ := bounded
  · cases failed.symm.trans converged
  · exact ⟨Except.error.inj (failed.symm.trans exhausted), below⟩

end BoundedOutcome

theorem run_bounded (factor : Nat) (gates : List Gate) :
    BoundedOutcome factor gates.length (run factor gates).outcome := by
  have limit := potential_le gates
  obtain ⟨final, converged, bound⟩ | ⟨exhausted, bound⟩ :=
    runFrom_cases (budget factor gates.length) (.start gates.length) gates
  · change final.iterations ≤ 0 + potential gates at bound
    exact .inl ⟨final, converged, by omega⟩
  · change _ = Except.error (Fault.iterationsExceeded (0 + _) gates.length) at exhausted
    rw [Nat.zero_add] at exhausted
    exact .inr ⟨exhausted, by omega⟩

/-- Up to seven gates even the least budget is enough. -/
theorem converged_of_few {gates : List Gate} (few : gates.length ≤ 7) (factor : Nat) :
    ∃ final, (run factor gates).outcome = .ok final := by
  obtain ⟨final, converged, _⟩ | ⟨_, below⟩ := run_bounded factor gates
  · exact ⟨final, converged⟩
  · have least : 16 ≤ budget factor gates.length := leastBudget_le_budget factor gates.length
    omega

/-- Replacing the Y rotations first changes the length that the bounds speak about. What it
changes in the tally does not count iterations. -/
theorem runNative_bounded (factor : Nat) (gates : List Gate) :
    BoundedOutcome factor (expandAll gates).length (runNative factor gates).outcome := by
  rw [outcome_runNative]
  obtain ⟨final, converged, bound⟩ | ⟨exhausted, bound⟩ := run_bounded factor (expandAll gates)
  · rw [converged]
    exact .inl ⟨_, rfl, bound⟩
  · rw [exhausted]
    exact .inr ⟨rfl, bound⟩

/-- With a positive factor every run converges, within `2 * n + 1` iterations for `n` gates. With
any factor the only fault is an exhausted budget, and the budget was below that bound. A native
run is held to the length of the sequence without Y rotations. -/
theorem run_converges (factor : Nat) (gates : List Gate) :
    (0 < factor → gates.length < 2 ^ 63 →
      ∃ final, (run factor gates).outcome = .ok final ∧
        final.iterations ≤ 2 * gates.length + 1) ∧
    (0 < factor → (expandAll gates).length < 2 ^ 63 →
      ∃ final, (runNative factor gates).outcome = .ok final ∧
        final.iterations ≤ 2 * (expandAll gates).length + 1) ∧
    (∀ fault, (run factor gates).outcome = .error fault →
      fault = .iterationsExceeded (budget factor gates.length) gates.length ∧
        budget factor gates.length < 2 * gates.length + 1) ∧
    (∀ fault, (runNative factor gates).outcome = .error fault →
      fault = .iterationsExceeded (budget factor (expandAll gates).length)
          (expandAll gates).length ∧
        budget factor (expandAll gates).length < 2 * (expandAll gates).length + 1) :=
  ⟨(run_bounded factor gates).converged, (runNative_bounded factor gates).converged,
    fun _ => (run_bounded factor gates).exhausted,
    fun _ => (runNative_bounded factor gates).exhausted⟩

/-- Twelve half turns about alternating axes converge with factor one. The least budget is too
small for them. -/
theorem run_converges_of_half_turns :
    let gates := (List.replicate 6 [Gate.x 180, .z 180]).flatten
    (0 < 1 ∧ gates.length < 2 ^ 63 ∧
      ∃ final, (run 1 gates).outcome = .ok final ∧ final.iterations ≤ 2 * gates.length + 1) ∧
    (run 0 gates).outcome = .error (.iterationsExceeded 16 12) ∧
      budget 0 gates.length < 2 * gates.length + 1 := by
  intro gates
  have short : gates.length < 2 ^ 63 := by
    change 12 < 2 ^ 63
    omega
  have exhausted : (run 0 gates).outcome = .error (.iterationsExceeded 16 12) := rfl
  exact ⟨⟨Nat.one_pos, short, (run_converges 1 gates).1 Nat.one_pos short⟩, exhausted,
    ((run_converges 0 gates).2.2.1 _ exhausted).2⟩

end Reduction

end QubitRotation
