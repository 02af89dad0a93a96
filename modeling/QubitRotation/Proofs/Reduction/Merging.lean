import Mathlib.Data.List.SplitBy
import QubitRotation.Proofs.Reduction.FixedPoint

/-!
# What merging makes of runs

Merging goes through a sequence once and fuses each gate into the one that it has kept so far. What
comes out can be said without that order: the sequence is split into its longest runs about one
axis, a lone gate is kept as it is, angle included, and every longer run becomes one gate by the
exact sum of its angles, modulo a full turn. `FusesTo` is what a run becomes; `fuseFrom_fusesTo` is
the induction, in which the gate kept so far stands for the part of its run that has been read.

`merge_fuses_runs` states this of every sequence, with the number of fused pairs, and what it means
for a sequence about one axis.
-/

namespace QubitRotation.Reduction

open Circuit (alternates)

/-! ## Runs -/

/-- The longest runs of neighbours about one axis, in order. -/
def axisRuns (gates : List Gate) : List (List Gate) :=
  gates.splitBy fun left right => left.axis == right.axis

/-- What a run becomes: a lone gate stays what it is, and more gates become one about their axis, by
the sum of their angles modulo a full turn. -/
inductive FusesTo : List Gate → Gate → Prop
  | lone (gate : Gate) : FusesTo [gate] gate
  | sum {run : List Gate} {gate : Gate} (several : 2 ≤ run.length)
      (about : ∀ part ∈ run, part.axis = gate.axis)
      (turns : gate.angle.toInt = (run.map (·.angle.toInt)).sum % 360) : FusesTo run gate

namespace FusesTo

variable {run : List Gate} {gate : Gate}

theorem ne_nil (fuses : FusesTo run gate) : run ≠ [] := by
  cases fuses with
  | lone => exact List.cons_ne_nil _ _
  | sum several =>
      rintro rfl
      cases several

theorem axis_eq (fuses : FusesTo run gate) : ∀ part ∈ run, part.axis = gate.axis := by
  cases fuses with
  | lone => exact List.forall_mem_singleton.mpr rfl
  | sum _ about => exact about

/-- Up to full turns the angles of a run always add up. -/
theorem angle_emod (fuses : FusesTo run gate) :
    gate.angle.toInt % 360 = (run.map (·.angle.toInt)).sum % 360 := by
  cases fuses with
  | lone => simp
  | sum _ _ turns => rw [turns, Int.emod_emod]

/-- Two runs about one axis make one run, and it becomes what their two gates fuse to. -/
theorem append (fuses : FusesTo run gate) {others : List Gate} {other : Gate}
    (fusesOthers : FusesTo others other) (same : gate.axis = other.axis) :
    FusesTo (run ++ others) (gate.fused other) := by
  have some := List.length_pos_iff.mpr fuses.ne_nil
  have someOthers := List.length_pos_iff.mpr fusesOthers.ne_nil
  refine .sum ?several ?about ?turns
  case several =>
    rw [List.length_append]
    omega
  case about =>
    rw [List.forall_mem_append]
    refine ⟨fuses.axis_eq, fun part member => ?_⟩
    exact (fusesOthers.axis_eq part member).trans same.symm
  case turns =>
    have first := fuses.angle_emod
    have second := fusesOthers.angle_emod
    rw [Gate.fused_angle, Angle.toInt_plus, List.map_append, List.sum_append]
    omega

end FusesTo

theorem isChain_of_axis_eq {run : List Gate} {axis : Axis}
    (about : ∀ gate ∈ run, gate.axis = axis) :
    run.IsChain fun left right => (left.axis == right.axis) = true := by
  induction run with
  | nil => exact .nil
  | cons gate run ih =>
      obtain ⟨first, others⟩ := List.forall_mem_cons.mp about
      refine List.isChain_cons.mpr ⟨?_, ih others⟩
      intro next head
      rw [beq_iff_eq, first, others next (List.mem_of_mem_head? head)]

theorem axisRuns_of_axis_eq {run : List Gate} {axis : Axis} (some : run ≠ [])
    (about : ∀ gate ∈ run, gate.axis = axis) : axisRuns run = [run] :=
  List.splitBy_of_isChain some (isChain_of_axis_eq about)

/-! ## Merging runs -/

/-- The gate that merging has kept so far is what the run read so far becomes. -/
theorem fuseFrom_fusesTo {run : List Gate} {current : Gate} (fuses : FusesTo run current)
    (rest : List Gate) :
    List.Forall₂ FusesTo (axisRuns (run ++ rest)) (fuseFrom current rest).gates := by
  induction rest generalizing run current with
  | nil =>
      rw [List.append_nil, axisRuns_of_axis_eq fuses.ne_nil fuses.axis_eq]
      exact .cons fuses .nil
  | cons next rest ih =>
      by_cases same : current.axis = next.axis
      · rw [fuseFrom_of_eq same, List.append_cons]
        exact ih (fuses.append (.lone next) same)
      · -- The next gate starts a run of its own.
        have ends : ∀ last ∈ run.getLast?, (last.axis == next.axis) = false := by
          intro last member
          rw [beq_eq_false_iff_ne, fuses.axis_eq last (List.mem_of_mem_getLast? member)]
          exact same
        rw [fuseFrom_of_ne same, axisRuns, List.splitBy_append_cons rest ends]
        change List.Forall₂ FusesTo (axisRuns run ++ _) _
        rw [axisRuns_of_axis_eq fuses.ne_nil fuses.axis_eq]
        exact .cons fuses (ih (.lone next))

theorem fuseRuns_fusesTo (gates : List Gate) :
    List.Forall₂ FusesTo (axisRuns gates) (fuseRuns gates).gates := by
  cases gates with
  | nil => exact .nil
  | cons first rest => exact fuseFrom_fusesTo (.lone first) rest

/-! ## Counting fused pairs -/

/-- The number of neighbours about one axis. -/
def joints (gates : List Gate) : Nat :=
  (gates.zip gates.tail).countP fun pair => pair.1.axis = pair.2.axis

theorem joints_cons (first second : Gate) (rest : List Gate) :
    joints (first :: second :: rest) =
      joints (second :: rest) + if first.axis = second.axis then 1 else 0 := by
  rw [joints, List.tail_cons, List.zip_cons_cons, List.countP_cons]
  simp only [decide_eq_true_eq]
  rfl

/-- Of its first gate only the axis counts. -/
theorem joints_of_axis_eq {first other : Gate} (same : first.axis = other.axis)
    (rest : List Gate) : joints (first :: rest) = joints (other :: rest) := by
  cases rest with
  | nil => rfl
  | cons second rest => rw [joints_cons, joints_cons, same]

theorem fuseFrom_count (current : Gate) (rest : List Gate) :
    (fuseFrom current rest).count = joints (current :: rest) := by
  induction rest generalizing current with
  | nil => rfl
  | cons next rest ih =>
      by_cases same : current.axis = next.axis
      · have kept : joints (current.fused next :: rest) = joints (next :: rest) :=
          joints_of_axis_eq ((current.fused_axis next).trans same) rest
        rw [fuseFrom_of_eq same, joints_cons, if_pos same, ← kept, ← ih]
      · rw [fuseFrom_of_ne same, joints_cons, if_neg same, ih, Nat.add_zero]

/-- A merge fires once for each two neighbours about one axis. -/
theorem fuseRuns_count (gates : List Gate) : (fuseRuns gates).count = joints gates := by
  cases gates with
  | nil => rfl
  | cons first rest => exact fuseFrom_count first rest

/-! ## Sequences about one axis -/

/-- A lone gate is dropped if it does nothing, and then the run is over. -/
theorem runFrom_singleton (remaining : Nat) (tally : Tally) (gate : Gate) :
    (∃ final, (runFrom (remaining + 2) tally [gate]).outcome = .ok final) ∧
      (runFrom (remaining + 2) tally [gate]).gates = [gate].filter (!·.isIdentity) := by
  -- One iteration may drop the gate, and one more finds nothing to do.
  by_cases identity : gate.isIdentity = true
  · have dropped : identityElimination [gate] = ⟨1, []⟩ := by
      simp [identityElimination, identity]
    have active : active? [gate] = some .identityElimination := by
      simp [active?, Rule.priority, Rule.pass, fuseRuns, fuseFrom, reflection, reflectFrom, dropped]
    have finished : active? [] = none := rfl
    rw [runFrom_of_active active]
    simp only [Rule.pass, dropped]
    rw [runFrom_of_inactive finished, List.filter_cons_of_neg (by simp [identity])]
    exact ⟨⟨_, rfl⟩, rfl⟩
  · rw [Bool.not_eq_true] at identity
    have reduced : Reduced [gate] := ⟨List.forall_mem_singleton.mpr identity, rfl, rfl⟩
    rw [runFrom_of_inactive (reduced_iff_inactive.mp reduced),
      List.filter_cons_of_pos (by simp [identity])]
    exact ⟨⟨_, rfl⟩, rfl⟩

/-- Any budget pays for two or more gates about one axis: they become one gate, which is dropped if
it does nothing. -/
theorem run_of_axis_eq {gates : List Gate} {axis : Axis} (several : 2 ≤ gates.length)
    (about : ∀ gate ∈ gates, gate.axis = axis) (factor : Nat) :
    ∃ gate, FusesTo gates gate ∧ (∃ final, (run factor gates).outcome = .ok final) ∧
      (run factor gates).gates = [gate].filter (!·.isIdentity) := by
  have some : gates ≠ [] := by
    rintro rfl
    cases several
  have fused := fuseRuns_fusesTo gates
  rw [axisRuns_of_axis_eq some about] at fused
  obtain ⟨gate, _, fuses, ⟨⟩, merged⟩ := List.forall₂_cons_left_iff.mp fused
  have fires : 0 < (fuseRuns gates).count := by
    have shorter := fuseRuns_count_add_length gates
    rw [merged, List.length_singleton] at shorter
    omega
  -- One iteration merges, and two are left for the gate that results.
  obtain ⟨remaining, paid⟩ : ∃ remaining, budget factor gates.length = remaining + 2 + 1 := by
    have enough : 3 ≤ budget factor gates.length :=
      Nat.le_trans (by decide) (leastBudget_le_budget factor gates.length)
    exact ⟨_, (Nat.sub_add_cancel enough).symm⟩
  refine ⟨gate, fuses, ?_⟩
  rw [run, paid, runFrom_of_active (active?_eq_merge fires)]
  change (∃ final, (runFrom _ _ (fuseRuns gates).gates).outcome = .ok final) ∧
    (runFrom _ _ (fuseRuns gates).gates).gates = _
  rw [merged]
  exact runFrom_singleton _ _ gate

/-- Merging does to every sequence what its definition by runs says, and never fails. Each longest
run about one axis becomes one gate: a lone gate unchanged, more gates by the exact sum of their
angles modulo a full turn. It fires once for each two neighbours about one axis, which is how many
gates are lost, no such neighbours are left, and a second merge does nothing. So a run on two or
more gates about one axis ends, under any budget, with the gate of that sum, or with no gate if the
sum does nothing. -/
theorem merge_fuses_runs (gates : List Gate) :
    (∃ pass, merge gates = .ok pass ∧
      List.Forall₂ FusesTo (axisRuns gates) pass.gates ∧
      pass.count = joints gates ∧ pass.count + pass.gates.length = gates.length ∧
      joints pass.gates = 0 ∧ merge pass.gates = .ok ⟨0, pass.gates⟩) ∧
    (∀ axis, 2 ≤ gates.length → (∀ gate ∈ gates, gate.axis = axis) → ∀ factor,
      (∃ final, (run factor gates).outcome = .ok final) ∧
      ((run factor gates).gates = [] ∧ (gates.map (·.angle.toInt)).sum % 360 = 0 ∨
        ∃ gate, (run factor gates).gates = [gate] ∧ gate.axis = axis ∧
          gate.angle.toInt = (gates.map (·.angle.toInt)).sum % 360 ∧
          gate.angle.toInt ≠ 0)) := by
  refine ⟨?merged, ?reduced⟩
  case merged =>
    have again := fuseRuns_of_alternates (alternates_fuseRuns gates)
    refine ⟨_, merge_eq gates, fuseRuns_fusesTo gates, fuseRuns_count gates,
      fuseRuns_count_add_length gates, ?unjoined, ?again⟩
    case unjoined => rw [← fuseRuns_count, again]
    case again => rw [merge_eq, again]
  case reduced =>
    intro axis several about factor
    obtain ⟨gate, fuses, converged, left⟩ := run_of_axis_eq several about factor
    refine ⟨converged, ?_⟩
    rw [left]
    have turns : gate.angle.toInt = (gates.map (·.angle.toInt)).sum % 360 := by
      cases fuses with
      | lone => simp at several
      | sum _ _ turns => exact turns
    by_cases identity : gate.isIdentity = true
    · have nothing := Gate.isIdentity_iff.mp identity
      rw [turns, Int.emod_emod] at nothing
      exact .inl ⟨List.filter_cons_of_neg (by simp [identity]), nothing⟩
    · have something := mt Gate.isIdentity_iff.mpr identity
      have first : gate.axis = axis := by
        obtain ⟨part, member⟩ := List.exists_mem_of_length_pos (Nat.lt_of_succ_lt several)
        rw [← fuses.axis_eq part member, about part member]
      refine .inr ⟨gate, List.filter_cons_of_pos (by simpa using identity), first, turns, ?_⟩
      intro zero
      exact something (by rw [zero]; rfl)

/-- Runs of three gates, of one and of two, with angles at both ends of their range. Three rotations
about Z become one, by what is left of their sum. -/
theorem merge_fuses_runs_of_extremes :
    let gates : List Gate := [.x 9223372036854775807, .x 9223372036854775807, .x 100,
      .y (-9223372036854775808), .z 10, .z (-10)]
    let turns : List Gate := [.z 9223372036854775807, .z (-9223372036854775808), .z 91]
    (∃ pass, merge gates = .ok pass ∧ List.Forall₂ FusesTo (axisRuns gates) pass.gates ∧
      pass.count = 3 ∧ joints pass.gates = 0) ∧
    2 ≤ turns.length ∧ (∀ gate ∈ turns, gate.axis = .z) ∧
      ((run 0 turns).gates = [] ∧ (turns.map (·.angle.toInt)).sum % 360 = 0 ∨
        ∃ gate, (run 0 turns).gates = [gate] ∧ gate.axis = .z ∧
          gate.angle.toInt = (turns.map (·.angle.toInt)).sum % 360 ∧ gate.angle.toInt ≠ 0) ∧
      (turns.map (·.angle.toInt)).sum % 360 = 90 := by
  intro gates turns
  have several : 2 ≤ turns.length := by decide
  have about : ∀ gate ∈ turns, gate.axis = .z := by decide
  have three : joints gates = 3 := by decide
  obtain ⟨pass, merged, fused, count, _, unjoined, _⟩ := (merge_fuses_runs gates).1
  exact ⟨⟨pass, merged, fused, count.trans three, unjoined⟩, several, about,
    ((merge_fuses_runs turns).2 .z several about 0).2, by decide⟩

end QubitRotation.Reduction
