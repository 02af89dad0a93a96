import Mathlib.Tactic.TFAE
import QubitRotation.Proofs.Reduction.Convergence
import QubitRotation.Proofs.Reduction.Runs

/-!
# Where runs stop

A sequence is reduced if none of its gates does nothing, its axes alternate, and no half turn may
move. These are the sequences on which no rule fires (`reduced_iff_inactive`), so every converged
run ends in one and every run of one is over at once, whatever its budget.

Alternation and the absence of identities are not enough: `X(90)`, `Y(180)`, `X(90)` has both and
still shrinks.

A run that changes anything shortens its sequence (`run_unchanged_or_shorter`). A reflection alone
keeps the length, but it is never the last thing a converged run does.
-/

namespace QubitRotation.Reduction

open Circuit (alternates)

/-- A sequence that no rule shortens or rearranges. -/
structure Reduced (gates : List Gate) : Prop where
  noIdentity : ∀ gate ∈ gates, gate.isIdentity = false
  alternating : alternates gates = true
  noSite : reflectionSite? gates = none

section Reduced

variable {gates : List Gate}

theorem reduced_iff_isFullyMerged :
    Reduced gates ↔
      (Circuit.ofGates gates).isFullyMerged = true ∧ reflectionSite? gates = none := by
  simp only [Circuit.isFullyMerged, Circuit.ofGates_gates, Bool.and_eq_true, List.all_eq_true,
    Bool.not_eq_true']
  constructor
  · intro reduced
    exact ⟨⟨reduced.noIdentity, reduced.alternating⟩, reduced.noSite⟩
  · rintro ⟨⟨noIdentity, alternating⟩, noSite⟩
    exact ⟨noIdentity, alternating, noSite⟩

/-- The reduced sequences are those on which no rule fires. -/
theorem reduced_iff_inactive : Reduced gates ↔ active? gates = none := by
  rw [active?_eq_none_iff]
  constructor
  · intro reduced rule
    cases rule with
    | merge => exact fuseRuns_count_eq_zero.mpr reduced.alternating
    | reflection => exact reflection_count_eq_zero.mpr reduced.noSite
    | identityElimination => exact identityElimination_count_eq_zero.mpr reduced.noIdentity
  · intro idle
    exact {
      noIdentity := identityElimination_count_eq_zero.mp (idle .identityElimination)
      alternating := fuseRuns_count_eq_zero.mp (idle .merge)
      noSite := reflection_count_eq_zero.mp (idle .reflection) }

namespace Reduced

/-- Each rule leaves a reduced sequence as it is. -/
theorem pass_eq (reduced : Reduced gates) (rule : Rule) : rule.pass gates = ⟨0, gates⟩ := by
  cases rule with
  | merge => exact fuseRuns_of_alternates reduced.alternating
  | reflection => exact reflection_of_no_site reduced.noSite
  | identityElimination => exact identityElimination_of_no_identity reduced.noIdentity

theorem apply_eq (reduced : Reduced gates) (rule : Rule) : rule.apply gates = .ok ⟨0, gates⟩ := by
  rw [rule.apply_eq, reduced.pass_eq rule]

/-- The run of a reduced sequence is one iteration, which every budget pays for. -/
theorem run_eq (reduced : Reduced gates) (factor : Nat) :
    run factor gates =
      { gates, outcome := .ok { Tally.start gates.length with iterations := 1 } } := by
  have inactive := reduced_iff_inactive.mp reduced
  obtain ⟨remaining, paid⟩ := Nat.exists_eq_add_one.mpr (budget_pos factor gates.length)
  rw [run, paid, runFrom_of_inactive inactive]
  rfl

/-- It fires nothing and counts its one iteration. -/
theorem run_idle (reduced : Reduced gates) (factor : Nat) :
    ∃ tally, run factor gates = { gates, outcome := .ok tally } ∧
      tally.firings = 0 ∧ tally.iterations = 1 :=
  ⟨_, reduced.run_eq factor, rfl, rfl⟩

end Reduced

end Reduced

section Converged

variable {factor : Nat} {gates : List Gate} {final : Tally}

/-- Every converged run ends in a reduced sequence. -/
theorem reduced_of_converged (converged : (run factor gates).outcome = .ok final) :
    Reduced (run factor gates).gates :=
  reduced_iff_inactive.mpr (inactive_of_converged converged)

/-- So does every converged native run. -/
theorem reduced_of_native_converged (converged : (runNative factor gates).outcome = .ok final) :
    Reduced (runNative factor gates).gates := by
  obtain ⟨inner, inside, _⟩ := converged_of_native converged
  rw [gates_runNative]
  exact reduced_of_converged inside

/-- A converged run leaves its sequence as it is or makes it shorter. -/
theorem run_unchanged_or_shorter (converged : (run factor gates).outcome = .ok final) :
    (run factor gates).gates = gates ∨ (run factor gates).gates.length < gates.length := by
  -- Every step lowers the potential, so only a run without steps may leave it where it was.
  have kept (_ : Tally) (left : List Gate) (rule : Rule) (active : active? left = some rule)
      (held : left = gates ∨ potential left < potential gates) :
      (rule.pass left).gates = gates ∨ potential (rule.pass left).gates < potential gates := by
    have lower := potential_pass_lt active
    obtain rfl | before := held
    · exact .inr lower
    · exact .inr (lower.trans before)
  obtain ⟨_, unchanged | lower, _, _⟩ := run_converged kept (.inl rfl) converged
  · exact .inl unchanged
  · right
    -- The end alternates: its potential is the greatest for its length, and yet the lower one.
    have alternating := (reduced_of_converged converged).alternating
    have bound := potential_le gates
    rw [potential_of_alternates alternating] at lower
    omega

/-- If no rule has fired the sequence is what it was. -/
theorem run_unchanged_of_no_firing (converged : (run factor gates).outcome = .ok final)
    (idle : final.firings = 0) : (run factor gates).gates = gates := by
  have kept (tally : Tally) (left : List Gate) (rule : Rule) (active : active? left = some rule)
      (_ : tally.firings = 0 → left = gates)
      (silent : (tally.iterate.record rule (rule.pass left).count).firings = 0) :
      (rule.pass left).gates = gates := by
    have fires := count_pos_of_active active
    rw [Tally.record_firings, Tally.iterate_firings] at silent
    omega
  obtain ⟨last, held, _, rfl⟩ := run_converged kept (fun _ => rfl) converged
  rw [Tally.finish_firings] at idle
  exact held idle

/-- Four ways to say that a run has nothing to do. -/
theorem run_unchanged_tfae (converged : (run factor gates).outcome = .ok final) :
    [(run factor gates).gates = gates,
      final.firings = 0,
      (run factor gates).gates.length = gates.length,
      (Circuit.ofGates gates).isFullyMerged = true ∧ reflectionSite? gates = none].TFAE := by
  rw [← reduced_iff_isFullyMerged]
  tfae_have 1 → 4 := by
    intro unchanged
    have reduced := reduced_of_converged converged
    rwa [unchanged] at reduced
  tfae_have 4 → 2 := by
    intro reduced
    rw [reduced.run_eq] at converged
    cases converged
    rfl
  tfae_have 2 → 1 := run_unchanged_of_no_firing converged
  tfae_have 1 → 3 := congrArg List.length
  tfae_have 3 → 1 := by
    intro same
    obtain unchanged | shorter := run_unchanged_or_shorter converged
    · exact unchanged
    · exact absurd same shorter.ne
  tfae_finish

end Converged

end QubitRotation.Reduction
