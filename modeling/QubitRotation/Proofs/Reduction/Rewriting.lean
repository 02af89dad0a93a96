import Mathlib.Logic.Relation
import QubitRotation.Proofs.Reduction.Passes
import QubitRotation.Proofs.Reduction.Replacement

/-!
# Local rewrites

A pass of a rule changes many places of a sequence, and a run makes many passes. All of it is made
of three local rewrites: two neighbours about one axis are fused, a half turn and the gate before
it change places, a gate that does nothing is dropped. `Rewrite` is one of them anywhere in a
sequence, `Rewrites` any number of them.

`rewrites_pass` and `rewrites_run` say that passes and runs consist of local rewrites, also where
a run used up its iterations. What each local rewrite preserves is therefore preserved by
everything.
-/

namespace QubitRotation.Reduction

/-- One local rewrite, at any place of a sequence. The swap does not ask whether it helps the next
merge. -/
inductive Rewrite : List Gate → List Gate → Prop
  | fuse {first second : Gate} (same : first.axis = second.axis) (rest : List Gate) :
      Rewrite (first :: second :: rest) (first.fused second :: rest)
  | swap {left turn : Gate} (apart : left.axis ≠ turn.axis) (half : turn.isHalfTurn = true)
      (rest : List Gate) : Rewrite (left :: turn :: rest) (turn :: left.inverse :: rest)
  | drop {gate : Gate} (identity : gate.isIdentity = true) (rest : List Gate) :
      Rewrite (gate :: rest) rest
  | cons (gate : Gate) {before after : List Gate} (rewrite : Rewrite before after) :
      Rewrite (gate :: before) (gate :: after)

/-- Any number of local rewrites. -/
abbrev Rewrites : List Gate → List Gate → Prop := Relation.ReflTransGen Rewrite

theorem Rewrites.cons (gate : Gate) {before after : List Gate} (rewrites : Rewrites before after) :
    Rewrites (gate :: before) (gate :: after) :=
  rewrites.lift (gate :: ·) fun _ _ => Rewrite.cons gate

/-- What every local rewrite preserves, any number of them preserves. -/
theorem Rewrites.preserves {motive : List Gate → Prop} {before after : List Gate}
    (rewrites : Rewrites before after)
    (kept : ∀ before after, Rewrite before after → motive before → motive after)
    (start : motive before) : motive after := by
  induction rewrites with
  | refl => exact start
  | tail _ rewrite ih => exact kept _ _ rewrite ih

/-! ## Axes -/

/-- A local rewrite never makes the rotations about an axis more. -/
theorem Rewrite.countP_axis_le {before after : List Gate} (rewrite : Rewrite before after)
    (axis : Axis) : after.countP (·.axis = axis) ≤ before.countP (·.axis = axis) := by
  induction rewrite with
  | @fuse first second same rest =>
      change (first :: rest).countP (·.axis = axis) ≤ _
      rw [List.countP_cons, List.countP_cons, List.countP_cons]
      omega
  | @swap left turn apart half rest =>
      change (turn :: left :: rest).countP (·.axis = axis) ≤ _
      simp only [List.countP_cons]
      omega
  | drop identity rest =>
      simp only [List.countP_cons]
      omega
  | cons gate _ ih =>
      simp only [List.countP_cons]
      omega

theorem Rewrites.countP_axis_le {before after : List Gate} (rewrites : Rewrites before after)
    (axis : Axis) : after.countP (·.axis = axis) ≤ before.countP (·.axis = axis) :=
  rewrites.preserves
    (motive := fun gates => gates.countP (·.axis = axis) ≤ before.countP (·.axis = axis))
    (fun _ _ rewrite bound => Nat.le_trans (rewrite.countP_axis_le axis) bound) (Nat.le_refl _)

/-! ## Lengths and gates -/

/-- No local rewrite makes a sequence longer. -/
theorem Rewrite.length_le {before after : List Gate} (rewrite : Rewrite before after) :
    after.length ≤ before.length := by
  induction rewrite with
  | fuse same rest => exact Nat.le_succ _
  | swap apart half rest => exact Nat.le_refl _
  | drop identity rest => exact Nat.le_succ _
  | cons gate _ ih => exact Nat.succ_le_succ ih

theorem Rewrites.length_le {before after : List Gate} (rewrites : Rewrites before after) :
    after.length ≤ before.length :=
  rewrites.preserves (motive := fun gates => gates.length ≤ before.length)
    (fun _ _ rewrite bound => Nat.le_trans rewrite.length_le bound) (Nat.le_refl _)

section Gates

variable {P : Gate → Prop} {before after : List Gate}

/-- Local rewrites make new gates in two ways only, so what fusing and inverting keep holds of
every gate that they leave. -/
theorem Rewrite.forall_mem
    (fused : ∀ first second, first.axis = second.axis → P first → P second →
      P (first.fused second))
    (inverse : ∀ gate, P gate → P gate.inverse)
    (rewrite : Rewrite before after) (start : ∀ gate ∈ before, P gate) :
    ∀ gate ∈ after, P gate := by
  induction rewrite with
  | @fuse first second same rest =>
      obtain ⟨ofFirst, ofSecond, ofRest⟩ := by simpa only [List.forall_mem_cons] using start
      exact List.forall_mem_cons.mpr ⟨fused first second same ofFirst ofSecond, ofRest⟩
  | @swap left turn apart half rest =>
      obtain ⟨ofLeft, ofTurn, ofRest⟩ := by simpa only [List.forall_mem_cons] using start
      exact List.forall_mem_cons.mpr
        ⟨ofTurn, List.forall_mem_cons.mpr ⟨inverse left ofLeft, ofRest⟩⟩
  | drop identity rest => exact (List.forall_mem_cons.mp start).2
  | cons gate _ ih =>
      obtain ⟨ofGate, ofBefore⟩ := List.forall_mem_cons.mp start
      exact List.forall_mem_cons.mpr ⟨ofGate, ih ofBefore⟩

theorem Rewrites.forall_mem
    (fused : ∀ first second, first.axis = second.axis → P first → P second →
      P (first.fused second))
    (inverse : ∀ gate, P gate → P gate.inverse)
    (rewrites : Rewrites before after) (start : ∀ gate ∈ before, P gate) :
    ∀ gate ∈ after, P gate :=
  rewrites.preserves (motive := fun gates => ∀ gate ∈ gates, P gate)
    (fun _ _ rewrite => rewrite.forall_mem fused inverse) start

end Gates

/-! ## Passes -/

theorem rewrites_fuseFrom (current : Gate) (rest : List Gate) :
    Rewrites (current :: rest) (fuseFrom current rest).gates := by
  induction rest generalizing current with
  | nil => exact .refl
  | cons next rest ih =>
      by_cases same : current.axis = next.axis
      · rw [fuseFrom_of_eq same]
        exact .head (.fuse same rest) (ih (current.fused next))
      · rw [fuseFrom_of_ne same]
        exact (ih next).cons current

theorem rewrites_fuseRuns (gates : List Gate) : Rewrites gates (fuseRuns gates).gates := by
  cases gates with
  | nil => exact .refl
  | cons first rest => exact rewrites_fuseFrom first rest

theorem rewrite_of_reflectFrom {before? : Option Gate} {gates moved : List Gate}
    (found : reflectFrom before? gates = some moved) : Rewrite gates moved := by
  refine reflectFrom_induction (motive := fun _ => Rewrite) ?here ?later found
  case here =>
    intro before? left turn rest eligible
    simp only [isEligible, Bool.and_eq_true, bne_iff_ne] at eligible
    exact .swap eligible.1.1 eligible.1.2 rest
  case later => exact fun _ left _ _ rewrite => rewrite.cons left

theorem rewrites_reflection (gates : List Gate) : Rewrites gates (reflection gates).gates := by
  obtain ⟨moved, found, fired⟩ | ⟨_, idle⟩ := reflection_cases gates
  · rw [fired]
    exact .single (rewrite_of_reflectFrom found)
  · rw [idle]

theorem rewrites_identityElimination (gates : List Gate) :
    Rewrites gates (identityElimination gates).gates := by
  change Rewrites gates (gates.filter (!·.isIdentity))
  induction gates with
  | nil => exact .refl
  | cons gate gates ih =>
      by_cases identity : gate.isIdentity = true
      · rw [List.filter_cons_of_neg (by simp [identity])]
        exact .head (.drop identity gates) ih
      · rw [List.filter_cons_of_pos (by simpa using identity)]
        exact ih.cons gate

/-- Every pass of every rule consists of local rewrites. -/
theorem rewrites_pass (rule : Rule) (gates : List Gate) :
    Rewrites gates (rule.pass gates).gates := by
  cases rule with
  | merge => exact rewrites_fuseRuns gates
  | reflection => exact rewrites_reflection gates
  | identityElimination => exact rewrites_identityElimination gates

/-! ## Runs -/

theorem rewrites_runFrom (remaining : Nat) (tally : Tally) (gates : List Gate) :
    Rewrites gates (runFrom remaining tally gates).gates := by
  induction remaining generalizing tally gates with
  | zero => exact .refl
  | succ remaining ih =>
      cases active : active? gates with
      | none =>
          rw [runFrom_of_inactive active]
      | some rule =>
          rw [runFrom_of_active active]
          exact (rewrites_pass rule gates).trans (ih _ _)

/-- Whatever its outcome, a run leaves a sequence that local rewrites lead to. -/
theorem rewrites_run (factor : Nat) (gates : List Gate) :
    Rewrites gates (run factor gates).gates :=
  rewrites_runFrom _ _ gates

theorem rewrites_runNative (factor : Nat) (gates : List Gate) :
    Rewrites (expandAll gates) (runNative factor gates).gates := by
  rw [gates_runNative]
  exact rewrites_run factor (expandAll gates)

/-- A native run leaves no rotation about Y, whatever its outcome. -/
theorem native_runNative (factor : Nat) (gates : List Gate) :
    ∀ gate ∈ (runNative factor gates).gates, gate.axis ≠ .y := by
  have bound := (rewrites_runNative factor gates).countP_axis_le .y
  have replaced : (expandAll gates).countP (·.axis = .y) = 0 :=
    countY_of_native (native_expandAll gates)
  rw [replaced] at bound
  have absent := List.countP_eq_zero.mp (Nat.le_zero.mp bound)
  intro gate member
  simpa using absent gate member

end QubitRotation.Reduction
