import QubitRotation.Proofs.Reduction.Runs

/-!
# What a tally accounts for

A merge or an elimination takes one gate away each time it fires, and a reflection none; so the
gates that a sequence lost are the merges and eliminations together. A reflection is only tried
where the axes alternate and ends that, so the next step merges and pays for it: at the end of a
run no reflection is left unpaid.

`Accounts` is this invariant on the way through a run, with the fact that every iteration but the
last fires a rule. `Accounts.record` keeps it, `Tally.Balanced` is what remains of it in the tally
of a converged run, and `tally_accounts_for_gates` states that for both kinds of run.
-/

namespace QubitRotation.Reduction

open Circuit (alternates)

/-! ## On the way -/

/-- A tally that accounts for what has become of `total` gates. Between a reflection and the merge
that follows one reflection is owed. -/
structure Accounts (total : Nat) (tally : Tally) (gates : List Gate) : Prop where
  conserved : gates.length + tally.merges + tally.eliminations = total
  owed : tally.reflections ≤ tally.merges + 1
  paid : alternates gates = true → tally.reflections ≤ tally.merges
  fruitful : tally.iterations ≤ tally.firings

namespace Accounts

variable {total : Nat} {tally : Tally} {gates : List Gate}

theorem start (gates : List Gate) : Accounts gates.length (.start gates.length) gates where
  conserved := rfl
  owed := Nat.zero_le _
  paid _ := Nat.zero_le _
  fruitful := Nat.le_refl _

/-- Whichever rule an iteration applies, it fires. -/
theorem fruitful_record (held : Accounts total tally gates) {rule : Rule} {count : Nat}
    (fires : 0 < count) :
    (tally.iterate.record rule count).iterations ≤ (tally.iterate.record rule count).firings := by
  have before := held.fruitful
  rw [Tally.record_iterations, Tally.record_firings, Tally.iterate_iterations,
    Tally.iterate_firings]
  omega

/-- A merge pays for the reflection before it. -/
theorem record_merge (held : Accounts total tally gates) (fires : 0 < (fuseRuns gates).count) :
    Accounts total (tally.iterate.record .merge (fuseRuns gates).count) (fuseRuns gates).gates := by
  have shorter := fuseRuns_count_add_length gates
  have conserved := held.conserved
  have covered : tally.reflections ≤ tally.merges + (fuseRuns gates).count :=
    Nat.le_trans held.owed (Nat.add_le_add_left fires _)
  exact {
    conserved := by
      change _ + (tally.merges + (fuseRuns gates).count) + tally.eliminations = total
      omega
    owed := Nat.le_succ_of_le covered
    paid := fun _ => covered
    fruitful := held.fruitful_record fires }

/-- A reflection is owed, since the axes no longer alternate. -/
theorem record_reflection (held : Accounts total tally gates)
    (alternating : alternates gates = true) (fires : 0 < (reflection gates).count) :
    Accounts total (tally.iterate.record .reflection (reflection gates).count)
      (reflection gates).gates := by
  obtain ⟨moved, found, fired⟩ | ⟨_, idle⟩ := reflection_cases gates
  · rw [fired] at fires ⊢
    exact {
      conserved := by
        rw [length_of_reflectFrom found]
        exact held.conserved
      owed := Nat.succ_le_succ (held.paid alternating)
      paid := fun again => absurd again (not_alternates_of_reflectFrom found)
      fruitful := held.fruitful_record fires }
  · rw [idle] at fires
    exact absurd fires (Nat.lt_irrefl 0)

/-- Eliminations leave nothing owed where nothing was. -/
theorem record_elimination (held : Accounts total tally gates)
    (alternating : alternates gates = true) (fires : 0 < (identityElimination gates).count) :
    Accounts total (tally.iterate.record .identityElimination (identityElimination gates).count)
      (identityElimination gates).gates := by
  have shorter := identityElimination_count_add_length gates
  have conserved := held.conserved
  exact {
    conserved := by
      change _ + tally.merges + (tally.eliminations + (identityElimination gates).count) = total
      omega
    owed := held.owed
    paid := fun _ => held.paid alternating
    fruitful := held.fruitful_record fires }

/-- The step lemma: an iteration keeps accounts. -/
theorem record {rule : Rule} (held : Accounts total tally gates)
    (active : active? gates = some rule) :
    Accounts total (tally.iterate.record rule (rule.pass gates).count) (rule.pass gates).gates := by
  have fires := count_pos_of_active active
  cases rule with
  | merge => exact held.record_merge fires
  | reflection => exact held.record_reflection (alternates_of_active active (by decide)) fires
  | identityElimination =>
      exact held.record_elimination (alternates_of_active active (by decide)) fires

end Accounts

/-! ## At the end -/

/-- A tally whose counts explain its sizes. Each replacement of a rotation about Y adds two gates,
each merge and each elimination takes one away. -/
structure Tally.Balanced (tally : Tally) : Prop where
  conserved : tally.gatesBefore + 2 * tally.substitutions =
    tally.gatesAfter + tally.merges + tally.eliminations
  reflections_le : tally.reflections ≤ tally.merges
  iterations_pos : 1 ≤ tally.iterations
  iterations_le : tally.iterations ≤ tally.firings + 1

/-- Where the axes alternate nothing is owed any more. -/
theorem Accounts.balanced_finish {total : Nat} {last : Tally} {left : List Gate}
    (held : Accounts total last left) (before : last.gatesBefore = total)
    (unreplaced : last.substitutions = 0) (alternating : alternates left = true) :
    (last.finish left.length).Balanced where
  conserved := by
    rw [Tally.finish_gatesBefore, Tally.finish_substitutions, before, unreplaced]
    exact held.conserved.symm
  reflections_le := held.paid alternating
  iterations_pos := Nat.succ_pos _
  iterations_le := Nat.succ_le_succ held.fruitful

section Converged

variable {factor : Nat} {gates : List Gate} {final : Tally}

theorem balanced_of_converged (converged : (run factor gates).outcome = .ok final) :
    final.Balanced := by
  obtain ⟨before, _, substitutions⟩ := sizes_of_converged converged
  obtain ⟨last, held, inactive, rfl⟩ := run_converged
    (fun _ _ _ active held => held.record active) (Accounts.start gates) converged
  rw [Tally.finish_gatesBefore] at before
  rw [Tally.finish_substitutions] at substitutions
  exact held.balanced_finish before substitutions
    (fuseRuns_count_eq_zero.mp (active?_eq_none_iff.mp inactive .merge))

theorem balanced_of_native_converged (converged : (runNative factor gates).outcome = .ok final) :
    final.Balanced := by
  obtain ⟨inner, inside, rfl⟩ := converged_of_native converged
  obtain ⟨before, _, substitutions⟩ := sizes_of_converged inside
  have balanced := balanced_of_converged inside
  have conserved := balanced.conserved
  rw [before, substitutions, length_expandAll] at conserved
  exact {
    conserved := conserved
    reflections_le := balanced.reflections_le
    iterations_pos := balanced.iterations_pos
    iterations_le := balanced.iterations_le }

end Converged

/-- The tally of a converged run accounts for every gate. It names the sizes before and after, and
the gates that were lost are its merges and eliminations; no more reflections than merges were
needed, and no iteration but the last was idle. A native run counts from the sequence before the
replacement and names the rotations that were replaced. -/
theorem tally_accounts_for_gates (factor : Nat) (gates : List Gate) :
    (∀ final, (run factor gates).outcome = .ok final →
      final.gatesBefore = gates.length ∧
      final.gatesAfter = (run factor gates).gates.length ∧
      final.substitutions = 0 ∧
      final.gatesBefore = final.gatesAfter + final.merges + final.eliminations ∧
      final.removed = final.merges + final.eliminations ∧
      final.reflections ≤ final.merges ∧
      1 ≤ final.iterations ∧ final.iterations ≤ final.firings + 1) ∧
    (∀ final, (runNative factor gates).outcome = .ok final →
      final.gatesBefore = gates.length ∧
      final.gatesAfter = (runNative factor gates).gates.length ∧
      final.substitutions = gates.countP (·.axis = .y) ∧
      final.gatesBefore + 2 * final.substitutions =
        final.gatesAfter + final.merges + final.eliminations ∧
      final.reflections ≤ final.merges ∧
      1 ≤ final.iterations ∧ final.iterations ≤ final.firings + 1) := by
  constructor
  · intro final converged
    obtain ⟨before, after, substitutions⟩ := sizes_of_converged converged
    obtain ⟨conserved, reflections, positive, iterations⟩ := balanced_of_converged converged
    rw [substitutions, Nat.mul_zero, Nat.add_zero] at conserved
    have removed : final.removed = final.merges + final.eliminations := by
      rw [Tally.removed, conserved, Nat.add_assoc, Nat.add_sub_cancel_left]
    exact ⟨before, after, substitutions, conserved, removed, reflections, positive, iterations⟩
  · intro final converged
    obtain ⟨before, after, substitutions⟩ := sizes_of_native_converged converged
    obtain ⟨conserved, reflections, positive, iterations⟩ := balanced_of_native_converged converged
    exact ⟨before, after, substitutions, conserved, reflections, positive, iterations⟩

/-- Each rule fires once on the first sequence. The second grows by its replacement and loses one
gate of it. -/
theorem tally_accounts_for_gates_of_half_turns :
    let gates : List Gate := [.x 30, .z 180, .x 30]
    let final : Tally := {
      gatesBefore := 3, gatesAfter := 1, merges := 1, reflections := 1, eliminations := 1,
      iterations := 4 }
    let turn : List Gate := [.y 180]
    let afterTurn : Tally := {
      gatesBefore := 1, gatesAfter := 2, substitutions := 1, merges := 1, reflections := 1,
      iterations := 3 }
    ((run 1 gates).outcome = .ok final ∧
      final.gatesBefore = final.gatesAfter + final.merges + final.eliminations ∧
      final.removed = final.merges + final.eliminations ∧ final.reflections ≤ final.merges ∧
      final.iterations ≤ final.firings + 1) ∧
    (runNative 1 turn).outcome = .ok afterTurn ∧
      afterTurn.gatesBefore + 2 * afterTurn.substitutions =
        afterTurn.gatesAfter + afterTurn.merges + afterTurn.eliminations := by
  intro gates final turn afterTurn
  have converged : (run 1 gates).outcome = .ok final := rfl
  have nativeConverged : (runNative 1 turn).outcome = .ok afterTurn := rfl
  obtain ⟨_, _, _, conserved, removed, reflections, _, iterations⟩ :=
    (tally_accounts_for_gates 1 gates).1 final converged
  obtain ⟨_, _, _, nativeConserved, _⟩ :=
    (tally_accounts_for_gates 1 turn).2 afterTurn nativeConverged
  exact ⟨⟨converged, conserved, removed, reflections, iterations⟩, nativeConverged,
    nativeConserved⟩

end QubitRotation.Reduction
