import QubitRotation.Reduction.Run

/-!
# Replacing rotations about Y

The replacement puts three gates in the place of every rotation about Y and leaves the other gates
alone. So the result turns about X and Z only, its length is known, and a sequence without
rotations about Y is its own replacement. A native run is a run of the replaced sequence, apart
from two counts of its tally.
-/

namespace QubitRotation.Reduction

theorem expandAll_cons (gate : Gate) (gates : List Gate) :
    expandAll (gate :: gates) = expand gate ++ expandAll gates :=
  List.flatMap_cons

/-- What stands in for a gate turns about X and Z only. -/
theorem native_expand (gate : Gate) : ∀ part ∈ expand gate, part.axis ≠ .y := by
  obtain ⟨axis, angle⟩ := gate
  cases axis <;> simp [expand, expandY, Gate.x, Gate.z]

theorem native_expandAll (gates : List Gate) : ∀ gate ∈ expandAll gates, gate.axis ≠ .y := by
  intro part member
  obtain ⟨gate, _, inside⟩ := List.mem_flatMap.mp member
  exact native_expand gate part inside

/-- Every replaced gate leaves three in its place. -/
theorem length_expandAll (gates : List Gate) :
    (expandAll gates).length = gates.length + 2 * countY gates := by
  induction gates with
  | nil => rfl
  | cons gate gates ih =>
      obtain ⟨axis, angle⟩ := gate
      rw [expandAll_cons, List.length_append, ih, countY, countY]
      cases axis <;> simp [expand, expandY] <;> omega

theorem length_le_expandAll (gates : List Gate) : gates.length ≤ (expandAll gates).length := by
  rw [length_expandAll]
  exact Nat.le_add_right ..

/-! ## Sequences without rotations about Y -/

theorem expand_of_native {gate : Gate} (native : gate.axis ≠ .y) : expand gate = [gate] := by
  obtain ⟨axis, angle⟩ := gate
  cases axis with
  | x => rfl
  | y => exact absurd rfl native
  | z => rfl

theorem expandAll_of_native {gates : List Gate} (native : ∀ gate ∈ gates, gate.axis ≠ .y) :
    expandAll gates = gates := by
  induction gates with
  | nil => rfl
  | cons gate gates ih =>
      obtain ⟨first, rest⟩ := List.forall_mem_cons.mp native
      rw [expandAll_cons, expand_of_native first, ih rest]
      rfl

theorem countY_of_native {gates : List Gate} (native : ∀ gate ∈ gates, gate.axis ≠ .y) :
    countY gates = 0 := by
  rw [countY, List.countP_eq_zero]
  intro gate member
  simpa using native gate member

/-! ## Gates about each axis -/

theorem countY_cons_of_eq {gate : Gate} (about : gate.axis = .y) (gates : List Gate) :
    countY (gate :: gates) = countY gates + 1 :=
  List.countP_cons_of_pos (by simpa using about)

theorem countY_cons_of_ne {gate : Gate} (other : gate.axis ≠ .y) (gates : List Gate) :
    countY (gate :: gates) = countY gates :=
  List.countP_cons_of_neg (by simpa using other)

/-- About X and Z there are the gates from before and those of the replacements. -/
theorem countP_expandAll {axis : Axis} (native : axis ≠ .y) (gates : List Gate) :
    (expandAll gates).countP (·.axis = axis) =
      gates.countP (·.axis = axis) + (expandY 0).countP (·.axis = axis) * countY gates := by
  induction gates with
  | nil => rfl
  | cons gate gates ih =>
      rw [expandAll_cons, List.countP_append, ih]
      by_cases about : gate.axis = .y
      · -- The angle decides which gates stand in for the rotation, but not about which axes.
        have parts : (expand gate).countP (·.axis = axis) =
            (expandY 0).countP (·.axis = axis) := by
          rw [expand, about]
          rfl
        have other : ¬gate.axis = axis := fun same => native (same.symm.trans about)
        rw [parts, countY_cons_of_eq about, Nat.mul_succ,
          List.countP_cons_of_neg (by simpa using other)]
        omega
      · rw [expand_of_native about, countY_cons_of_ne about, List.countP_singleton,
          List.countP_cons]
        omega

/-! ## Native runs -/

/-- A native run leaves what the run of the replaced sequence leaves. -/
theorem gates_runNative (factor : Nat) (gates : List Gate) :
    (runNative factor gates).gates = (run factor (expandAll gates)).gates := by
  rw [runNative]

theorem outcome_runNative (factor : Nat) (gates : List Gate) :
    (runNative factor gates).outcome = (run factor (expandAll gates)).outcome.map fun tally =>
      { tally with gatesBefore := gates.length, substitutions := countY gates } := by
  rw [runNative]

end QubitRotation.Reduction
