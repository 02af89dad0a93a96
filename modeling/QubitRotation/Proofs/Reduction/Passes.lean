import QubitRotation.Circuit
import QubitRotation.Reduction.Run

/-!
# One pass of a rule, one step of a run

Fusing refuses two gates about different axes, so the rules answer in `Except Fault`. Merging
only fuses neighbours about one axis, and no rule ever fails: `Rule.pass` is the answer of a rule
without the fault, and `Rule.apply_eq` says so. `active?` names the rule that a step uses. The
equations `runFrom_of_active` and `runFrom_of_inactive` unfold one iteration of a run in these
terms; proofs about runs go through them and never open `firstToFire`.

The second half says what each pass does to the length of a sequence and to its alternation of
axes. A merge leaves an alternating sequence, and a reflection never does.
-/

namespace QubitRotation

/-- The rotation that two rotations about one axis amount to. -/
def Gate.fused (first second : Gate) : Gate := ⟨first.axis, first.angle.plus second.angle⟩

@[simp] theorem Gate.fused_axis (first second : Gate) :
    (first.fused second).axis = first.axis := rfl

@[simp] theorem Gate.fused_angle (first second : Gate) :
    (first.fused second).angle = first.angle.plus second.angle := rfl

namespace Circuit

/-- Alternation looks at the first two gates and then at the rest. -/
theorem alternates_cons {gate : Gate} {gates : List Gate} :
    alternates (gate :: gates) = true ↔
      (∀ next ∈ gates.head?, gate.axis ≠ next.axis) ∧ alternates gates = true := by
  cases gates with
  | nil => simp [alternates]
  | cons next rest => simp [alternates]

end Circuit

namespace Reduction

open Circuit (alternates alternates_cons)

/-! ## Rules without faults -/

/-- What merging makes of a sequence that starts with `current`. -/
def fuseFrom (current : Gate) : List Gate → Pass
  | [] => ⟨0, [current]⟩
  | next :: rest =>
      if current.axis = next.axis then
        ⟨(fuseFrom (current.fused next) rest).count + 1, (fuseFrom (current.fused next) rest).gates⟩
      else
        ⟨(fuseFrom next rest).count, current :: (fuseFrom next rest).gates⟩

/-- What merging makes of a sequence. -/
def fuseRuns : List Gate → Pass
  | [] => ⟨0, []⟩
  | first :: rest => fuseFrom first rest

theorem fuseFrom_of_eq {current next : Gate} (same : current.axis = next.axis)
    (rest : List Gate) : fuseFrom current (next :: rest) =
      ⟨(fuseFrom (current.fused next) rest).count + 1,
        (fuseFrom (current.fused next) rest).gates⟩ :=
  if_pos same

theorem fuseFrom_of_ne {current next : Gate} (apart : current.axis ≠ next.axis)
    (rest : List Gate) : fuseFrom current (next :: rest) =
      ⟨(fuseFrom next rest).count, current :: (fuseFrom next rest).gates⟩ :=
  if_neg apart

theorem mergeFrom_eq (current : Gate) (rest : List Gate) :
    mergeFrom current rest = .ok (fuseFrom current rest) := by
  induction rest generalizing current with
  | nil => rfl
  | cons next rest ih =>
      by_cases same : current.axis = next.axis
      · rw [mergeFrom, if_pos same, Gate.fuse_of_axis_eq same, fuseFrom_of_eq same]
        change mergeFrom (current.fused next) rest >>= _ = _
        rw [ih]
        rfl
      · rw [mergeFrom, if_neg same, fuseFrom_of_ne same, ih]
        rfl

theorem merge_eq (gates : List Gate) : merge gates = .ok (fuseRuns gates) := by
  cases gates with
  | nil => rfl
  | cons first rest => exact mergeFrom_eq first rest

/-- What one application of a rule does. -/
def Rule.pass (rule : Rule) (gates : List Gate) : Pass :=
  match rule with
  | .merge => fuseRuns gates
  | .reflection => Reduction.reflection gates
  | .identityElimination => Reduction.identityElimination gates

/-- No rule ever fails. -/
theorem Rule.apply_eq (rule : Rule) (gates : List Gate) :
    rule.apply gates = .ok (rule.pass gates) := by
  cases rule with
  | merge => exact merge_eq gates
  | reflection => rfl
  | identityElimination => rfl

/-! ## Tallies -/

namespace Tally

@[simp] theorem record_iterations (tally : Tally) (rule : Rule) (count : Nat) :
    (tally.record rule count).iterations = tally.iterations := by
  cases rule <;> rfl

@[simp] theorem record_gatesBefore (tally : Tally) (rule : Rule) (count : Nat) :
    (tally.record rule count).gatesBefore = tally.gatesBefore := by
  cases rule <;> rfl

@[simp] theorem record_substitutions (tally : Tally) (rule : Rule) (count : Nat) :
    (tally.record rule count).substitutions = tally.substitutions := by
  cases rule <;> rfl

@[simp] theorem record_firings (tally : Tally) (rule : Rule) (count : Nat) :
    (tally.record rule count).firings = tally.firings + count := by
  cases rule <;> simp only [firings, record] <;> omega

@[simp] theorem iterate_iterations (tally : Tally) :
    tally.iterate.iterations = tally.iterations + 1 := rfl

@[simp] theorem iterate_gatesBefore (tally : Tally) :
    tally.iterate.gatesBefore = tally.gatesBefore := rfl

@[simp] theorem iterate_substitutions (tally : Tally) :
    tally.iterate.substitutions = tally.substitutions := rfl

@[simp] theorem iterate_firings (tally : Tally) : tally.iterate.firings = tally.firings := rfl

/-- The tally of a run that ends with `left` gates, after one last iteration that found nothing
to do. -/
def finish (tally : Tally) (left : Nat) : Tally := { tally.iterate with gatesAfter := left }

@[simp] theorem finish_gatesBefore (tally : Tally) (left : Nat) :
    (tally.finish left).gatesBefore = tally.gatesBefore := rfl

@[simp] theorem finish_gatesAfter (tally : Tally) (left : Nat) :
    (tally.finish left).gatesAfter = left := rfl

@[simp] theorem finish_substitutions (tally : Tally) (left : Nat) :
    (tally.finish left).substitutions = tally.substitutions := rfl

@[simp] theorem finish_firings (tally : Tally) (left : Nat) :
    (tally.finish left).firings = tally.firings := rfl

end Tally

/-! ## Steps and iterations -/

/-- The rule that a step applies: the first in order of priority that fires. -/
def active? (gates : List Gate) : Option Rule :=
  Rule.priority.find? fun rule => 0 < (rule.pass gates).count

theorem firstToFire_eq (rules : List Rule) (gates : List Gate) :
    firstToFire rules gates =
      .ok ((rules.find? fun rule => 0 < (rule.pass gates).count).map
        fun rule => (rule, rule.pass gates)) := by
  induction rules with
  | nil => rfl
  | cons rule others ih =>
      rw [firstToFire, Rule.apply_eq]
      change (if 0 < (rule.pass gates).count then _ else firstToFire others gates) = _
      by_cases fires : 0 < (rule.pass gates).count
      · rw [if_pos fires, List.find?_cons_of_pos (by simpa using fires)]
        rfl
      · rw [if_neg fires, ih, List.find?_cons_of_neg (by simpa using fires)]

theorem step_eq (gates : List Gate) :
    step gates = .ok ((active? gates).map fun rule => (rule, rule.pass gates)) :=
  firstToFire_eq Rule.priority gates

/-- The last iteration of a run finds no rule that fires. -/
theorem runFrom_of_inactive {gates : List Gate} (inactive : active? gates = none)
    (remaining : Nat) (tally : Tally) :
    runFrom (remaining + 1) tally gates =
      { gates, outcome := .ok (tally.finish gates.length) } := by
  simp only [runFrom, step_eq, inactive, Option.map_none, Tally.finish]

/-- Every other iteration applies the active rule and counts its firings. -/
theorem runFrom_of_active {gates : List Gate} {rule : Rule} (active : active? gates = some rule)
    (remaining : Nat) (tally : Tally) :
    runFrom (remaining + 1) tally gates =
      let rest := runFrom remaining (tally.iterate.record rule (rule.pass gates).count)
        (rule.pass gates).gates
      { rest with
        firings := ⟨rule, (rule.pass gates).count, (rule.pass gates).gates.length⟩ ::
          rest.firings } := by
  simp only [runFrom, step_eq, active, Option.map_some]

/-! ## Merging and alternation -/

/-- Every fused pair is one gate less. -/
theorem fuseFrom_count_add_length (current : Gate) (rest : List Gate) :
    (fuseFrom current rest).count + (fuseFrom current rest).gates.length = rest.length + 1 := by
  induction rest generalizing current with
  | nil => rfl
  | cons next rest ih =>
      by_cases same : current.axis = next.axis
      · have shorter := ih (current.fused next)
        simp only [fuseFrom_of_eq same, List.length_cons]
        omega
      · have shorter := ih next
        simp only [fuseFrom_of_ne same, List.length_cons]
        omega

/-- Merging never changes the axis a sequence starts with. -/
theorem axis_head_fuseFrom (current : Gate) (rest : List Gate) :
    ∀ head ∈ (fuseFrom current rest).gates.head?, head.axis = current.axis := by
  induction rest generalizing current with
  | nil =>
      intro head member
      cases member
      rfl
  | cons next rest ih =>
      by_cases same : current.axis = next.axis
      · rw [fuseFrom_of_eq same]
        exact ih (current.fused next)
      · rw [fuseFrom_of_ne same]
        intro head member
        cases member
        rfl

/-- After a merge no two neighbours turn about one axis. -/
theorem alternates_fuseFrom (current : Gate) (rest : List Gate) :
    alternates (fuseFrom current rest).gates = true := by
  induction rest generalizing current with
  | nil => rfl
  | cons next rest ih =>
      by_cases same : current.axis = next.axis
      · rw [fuseFrom_of_eq same]
        exact ih (current.fused next)
      · rw [fuseFrom_of_ne same]
        refine alternates_cons.mpr ⟨fun head member => ?_, ih next⟩
        rw [axis_head_fuseFrom next rest head member]
        exact same

/-- A merge fires exactly where the axes do not alternate. -/
theorem fuseFrom_count_eq_zero {current : Gate} {rest : List Gate} :
    (fuseFrom current rest).count = 0 ↔ alternates (current :: rest) = true := by
  induction rest generalizing current with
  | nil => exact ⟨fun _ => rfl, fun _ => rfl⟩
  | cons next rest ih =>
      by_cases same : current.axis = next.axis
      · rw [fuseFrom_of_eq same, alternates_cons]
        simp [same]
      · rw [fuseFrom_of_ne same, alternates_cons, ih]
        simp [same]

theorem alternates_fuseRuns (gates : List Gate) : alternates (fuseRuns gates).gates = true := by
  cases gates with
  | nil => rfl
  | cons first rest => exact alternates_fuseFrom first rest

theorem fuseRuns_count_add_length (gates : List Gate) :
    (fuseRuns gates).count + (fuseRuns gates).gates.length = gates.length := by
  cases gates with
  | nil => rfl
  | cons first rest => exact fuseFrom_count_add_length first rest

theorem fuseRuns_count_eq_zero {gates : List Gate} :
    (fuseRuns gates).count = 0 ↔ alternates gates = true := by
  cases gates with
  | nil => exact ⟨fun _ => rfl, fun _ => rfl⟩
  | cons first rest => exact fuseFrom_count_eq_zero

theorem fuseFrom_of_alternates {current : Gate} {rest : List Gate}
    (alternating : alternates (current :: rest) = true) :
    fuseFrom current rest = ⟨0, current :: rest⟩ := by
  induction rest generalizing current with
  | nil => rfl
  | cons next rest ih =>
      obtain ⟨apart, later⟩ := alternates_cons.mp alternating
      rw [fuseFrom_of_ne (apart next rfl), ih later]

/-- Merging leaves a sequence alone whose axes alternate. -/
theorem fuseRuns_of_alternates {gates : List Gate} (alternating : alternates gates = true) :
    fuseRuns gates = ⟨0, gates⟩ := by
  cases gates with
  | nil => rfl
  | cons first rest => exact fuseFrom_of_alternates alternating

/-! ## Moving a half turn -/

theorem reflectFrom_of_eligible {before? : Option Gate} {left turn : Gate} {rest : List Gate}
    (eligible : isEligible before? left turn rest.head? = true) :
    reflectFrom before? (left :: turn :: rest) = some (turn :: left.inverse :: rest) :=
  if_pos eligible

theorem reflectFrom_of_not_eligible {before? : Option Gate} {left turn : Gate} {rest : List Gate}
    (barred : ¬isEligible before? left turn rest.head? = true) :
    reflectFrom before? (left :: turn :: rest) =
      (reflectFrom (some left) (turn :: rest)).map (left :: ·) :=
  if_neg barred

/-- Induction over the places where a half turn may move: it moves at the front, or further
right, with the first gate of the sequence as its left neighbour. -/
theorem reflectFrom_induction {motive : Option Gate → List Gate → List Gate → Prop}
    (here : ∀ before? left turn rest, isEligible before? left turn rest.head? = true →
      motive before? (left :: turn :: rest) (turn :: left.inverse :: rest))
    (later : ∀ before? left gates moved, motive (some left) gates moved →
      motive before? (left :: gates) (left :: moved))
    {before? : Option Gate} {gates moved : List Gate}
    (found : reflectFrom before? gates = some moved) : motive before? gates moved := by
  induction gates generalizing before? moved with
  | nil => cases found
  | cons left gates ih =>
      cases gates with
      | nil => cases found
      | cons turn rest =>
          by_cases eligible : isEligible before? left turn rest.head? = true
          · rw [reflectFrom_of_eligible eligible] at found
            cases found
            exact here before? left turn rest eligible
          · rw [reflectFrom_of_not_eligible eligible, Option.map_eq_some_iff] at found
            obtain ⟨moved, found, rfl⟩ := found
            exact later before? left (turn :: rest) moved (ih found)

theorem length_of_reflectFrom {before? : Option Gate} {gates moved : List Gate}
    (found : reflectFrom before? gates = some moved) : moved.length = gates.length := by
  refine reflectFrom_induction (motive := fun _ gates moved => moved.length = gates.length)
    ?here ?later found
  case here => exact fun _ _ _ _ _ => rfl
  case later => exact fun _ _ _ _ same => congrArg (· + 1) same

/-- A moved half turn always leaves two neighbours about one axis: the turn and the gate before
it, or the gate it passed and the one after it. -/
theorem not_alternates_of_reflectFrom {before? : Option Gate} {gates moved : List Gate}
    (found : reflectFrom before? gates = some moved) :
    ¬alternates (before?.toList ++ moved) = true := by
  refine reflectFrom_induction
    (motive := fun before? _ moved => ¬alternates (before?.toList ++ moved) = true)
    ?here ?later found
  case here =>
    intro before? left turn rest eligible alternating
    have tail : alternates (turn :: left.inverse :: rest) = true := by
      cases before? with
      | none => exact alternating
      | some before => exact (alternates_cons.mp alternating).2
    simp only [isEligible, Bool.and_eq_true, Bool.or_eq_true, Option.any_eq_true,
      decide_eq_true_eq] at eligible
    obtain ⟨_, ⟨after, next, joins⟩ | ⟨before, rfl, joins⟩⟩ := eligible
    · have apart := (alternates_cons.mp (alternates_cons.mp tail).2).1 after next
      exact apart joins.symm
    · exact (alternates_cons.mp alternating).1 turn rfl joins
  case later =>
    intro before? left gates moved joined alternating
    apply joined
    cases before? with
    | none => exact alternating
    | some before => exact (alternates_cons.mp alternating).2

/-- A reflection either moves one half turn or leaves the sequence as it was. -/
theorem reflection_cases (gates : List Gate) :
    (∃ moved, reflectFrom none gates = some moved ∧ reflection gates = ⟨1, moved⟩) ∨
      (reflectFrom none gates = none ∧ reflection gates = ⟨0, gates⟩) := by
  unfold reflection
  cases found : reflectFrom none gates with
  | none => exact .inr ⟨rfl, rfl⟩
  | some moved => exact .inl ⟨moved, rfl, rfl⟩

/-- Looking for an eligible half turn and moving it agree on whether there is one. -/
theorem siteFrom_eq_none_iff {before? : Option Gate} {index : Nat} {gates : List Gate} :
    siteFrom before? index gates = none ↔ reflectFrom before? gates = none := by
  induction gates generalizing before? index with
  | nil => exact ⟨fun _ => rfl, fun _ => rfl⟩
  | cons left gates ih =>
      cases gates with
      | nil => exact ⟨fun _ => rfl, fun _ => rfl⟩
      | cons turn rest =>
          by_cases eligible : isEligible before? left turn rest.head? = true
          · rw [siteFrom, if_pos eligible, reflectFrom_of_eligible eligible]
            exact ⟨nofun, nofun⟩
          · rw [siteFrom, if_neg eligible, reflectFrom_of_not_eligible eligible, ih,
              Option.map_eq_none_iff]

theorem reflection_of_no_site {gates : List Gate} (noSite : reflectionSite? gates = none) :
    reflection gates = ⟨0, gates⟩ := by
  have unmoved : reflectFrom none gates = none := siteFrom_eq_none_iff.mp noSite
  rw [reflection, unmoved]

theorem reflection_count_eq_zero {gates : List Gate} :
    (reflection gates).count = 0 ↔ reflectionSite? gates = none := by
  constructor
  · intro idle
    obtain ⟨moved, _, fired⟩ | ⟨unmoved, _⟩ := reflection_cases gates
    · rw [fired] at idle
      cases idle
    · exact siteFrom_eq_none_iff.mpr unmoved
  · intro noSite
    rw [reflection_of_no_site noSite]

/-! ## Dropping identities -/

theorem identityElimination_count_add_length (gates : List Gate) :
    (identityElimination gates).count + (identityElimination gates).gates.length =
      gates.length :=
  Nat.sub_add_cancel (List.length_filter_le ..)

theorem identityElimination_of_no_identity {gates : List Gate}
    (noIdentity : ∀ gate ∈ gates, gate.isIdentity = false) :
    identityElimination gates = ⟨0, gates⟩ := by
  have kept : gates.filter (!·.isIdentity) = gates := by
    rw [List.filter_eq_self]
    intro gate member
    rw [noIdentity gate member]
    rfl
  rw [identityElimination, kept, Nat.sub_self]

theorem identityElimination_count_eq_zero {gates : List Gate} :
    (identityElimination gates).count = 0 ↔ ∀ gate ∈ gates, gate.isIdentity = false := by
  constructor
  · intro idle gate member
    have kept : (gates.filter (!·.isIdentity)).length = gates.length := by
      have shorter := identityElimination_count_add_length gates
      rw [idle, Nat.zero_add] at shorter
      exact shorter
    have all := List.length_filter_eq_length_iff.mp kept gate member
    simpa using all
  · intro noIdentity
    rw [identityElimination_of_no_identity noIdentity]

/-! ## The active rule -/

theorem active?_eq_none_iff {gates : List Gate} :
    active? gates = none ↔ ∀ rule : Rule, (rule.pass gates).count = 0 := by
  rw [active?, List.find?_eq_none]
  constructor
  · intro idle rule
    have listed : rule ∈ Rule.priority := by cases rule <;> decide
    simpa using idle rule listed
  · intro idle rule _
    simp [idle rule]

theorem count_pos_of_active {gates : List Gate} {rule : Rule}
    (active : active? gates = some rule) : 0 < (rule.pass gates).count := by
  simpa using List.find?_some active

/-- Merging is tried first. -/
theorem active?_eq_merge {gates : List Gate} (fires : 0 < (fuseRuns gates).count) :
    active? gates = some .merge :=
  List.find?_cons_of_pos (decide_eq_true fires)

/-- Where the axes alternate half turns are next. -/
theorem active?_eq_reflection {gates : List Gate} {site : Nat}
    (alternating : alternates gates = true) (found : reflectionSite? gates = some site) :
    active? gates = some .reflection := by
  have merged : (Rule.merge.pass gates).count = 0 := fuseRuns_count_eq_zero.mpr alternating
  have moves : 0 < (Rule.reflection.pass gates).count := by
    apply Nat.pos_of_ne_zero
    rw [Ne, Rule.pass, reflection_count_eq_zero, found]
    exact nofun
  rw [active?, Rule.priority, List.find?_cons_of_neg (by simp [merged]),
    List.find?_cons_of_pos (by simpa using moves)]

/-- And where no half turn may move, the gates that do nothing. -/
theorem active?_eq_elimination {gates : List Gate} (alternating : alternates gates = true)
    (noSite : reflectionSite? gates = none) {gate : Gate} (member : gate ∈ gates)
    (identity : gate.isIdentity = true) : active? gates = some .identityElimination := by
  have merged : (Rule.merge.pass gates).count = 0 := fuseRuns_count_eq_zero.mpr alternating
  have moved : (Rule.reflection.pass gates).count = 0 := reflection_count_eq_zero.mpr noSite
  have drops : 0 < (Rule.identityElimination.pass gates).count := by
    apply Nat.pos_of_ne_zero
    intro idle
    rw [identityElimination_count_eq_zero.mp idle gate member] at identity
    cases identity
  rw [active?, Rule.priority, List.find?_cons_of_neg (by simp [merged]),
    List.find?_cons_of_neg (by simp [moved]), List.find?_cons_of_pos (by simpa using drops)]

/-- A rule after the merge is only tried on a sequence that merging leaves alone. -/
theorem alternates_of_active {gates : List Gate} {rule : Rule}
    (active : active? gates = some rule) (later : rule ≠ .merge) :
    alternates gates = true := by
  refine Decidable.byContradiction fun joined => later ?_
  have fires := Nat.pos_of_ne_zero (mt fuseRuns_count_eq_zero.mp joined)
  exact Option.some.inj (active.symm.trans (active?_eq_merge fires))

end Reduction

end QubitRotation
