import QubitRotation.Proofs.Optimization.Outcome
import QubitRotation.Proofs.Rotation.Spin

/-!
# Reducing keeps the rotation

Two gate sequences perform the same rotation if executing them amounts to the same in every
rotation system, in space, and on a qubit up to global phase. Local rewrites keep the rotation,
and passes and runs are made of them; so passes, runs and circuits that were reduced perform what
the original did (`reductions_keep_rotation`). A run that used up its iterations is no exception:
the sequence it leaves is only not as short as it might be.
-/

namespace QubitRotation

open Reduction

universe u

/-- Two sequences that perform the same rotation when executed from left to right. -/
structure SameRotation (first second : List Gate) : Prop where
  /-- They agree by the laws of rotation systems alone. -/
  system : ∀ (G : Type u) [Group G] (R : RotationSystem G), R.executed first = R.executed second
  /-- They move space in the same way. -/
  space : Space.system.executed first = Space.system.executed second
  /-- They act on a qubit in the same way, up to global phase. -/
  qubit : Spin.SameUpToPhase (Spin.executed first) (Spin.executed second)

theorem SameRotation.of_rewrites {before after : List Gate} (rewrites : Rewrites before after) :
    SameRotation.{u} after before where
  system _ _ R := R.executed_eq_of_rewrites rewrites
  space := Space.system.executed_eq_of_rewrites rewrites
  qubit := Spin.sameUpToPhase_executed.mpr (Spin.system.executed_eq_of_rewrites rewrites)

/-- Reducing keeps the rotation: in a run, whatever its outcome, in one application of any rule to
any sequence, and in every circuit that reducing or optimising with all axes returns. -/
theorem reductions_keep_rotation (factor : Nat) (gates : List Gate) :
    SameRotation.{u} (run factor gates).gates gates ∧
    (∀ rule : Rule, ∃ pass, rule.apply gates = .ok pass ∧ SameRotation.{u} pass.gates gates) ∧
    (∀ name reduced tally, Circuit.reduce factor ⟨gates, name⟩ = .ok (reduced, tally) →
      SameRotation.{u} reduced.gates gates) ∧
    (∀ settings name reduced, Settings.optimizeXY settings ⟨gates, name⟩ = .ok reduced →
      SameRotation.{u} reduced.gates gates) := by
  have preserved (factor : Nat) : SameRotation.{u} (run factor gates).gates gates :=
    .of_rewrites (rewrites_run factor gates)
  refine ⟨preserved factor, ?rule, ?reduce, ?optimize⟩
  case rule =>
    intro rule
    exact ⟨rule.pass gates, rule.apply_eq gates, .of_rewrites (rewrites_pass rule gates)⟩
  case reduce =>
    intro name reduced tally finished
    rw [Circuit.gates_of_reduce finished]
    exact preserved factor
  case optimize =>
    intro settings name reduced finished
    rw [Settings.gates_of_optimizeXY finished]
    exact preserved settings.factor.toNat

/-- A half turn that passes its neighbour makes a whole circuit vanish, and rightly so. -/
theorem reductions_keep_rotation_of_half_turns :
    let gates : List Gate := [.x 30, .z 180, .x 30, .z (-180)]
    (∃ tally, Circuit.reduce 4 ⟨gates, none⟩ = .ok (⟨[], none⟩, tally)) ∧
    Settings.optimizeXY {} ⟨gates, none⟩ = .ok ⟨[], none⟩ ∧ SameRotation.{u} [] gates := by
  intro gates
  have reduced : Settings.optimizeXY {} ⟨gates, none⟩ = .ok ⟨[], none⟩ := rfl
  exact ⟨⟨_, rfl⟩, reduced, (reductions_keep_rotation 4 gates).2.2.2 {} none _ reduced⟩

end QubitRotation
