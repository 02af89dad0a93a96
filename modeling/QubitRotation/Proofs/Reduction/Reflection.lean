import Mathlib.Order.Bounds.Defs
import QubitRotation.Proofs.Reduction.Merging

/-!
# What moving a half turn is worth

Rules go through a sequence from left to right and see no more of it than a gate and its
neighbours. Here the same is said by places: `EligibleAt` is the condition on a place under which
its gate may move, and the place that the rule finds is the least of them
(`reflectionSite?_eq_some_iff`). `MovedAt` is what the move changes.

Where axes alternate, a move makes new neighbours in three places at most: between the turn and
the gate before the pair, within the pair, and between the passed gate and the one behind. The
pair still turns about two axes, so only the outer two count, and one of them joins because the
turn was eligible. The next merge fires once for each (`joints_of_moved`), which is why no two
moves follow each other without a gate being lost between them.
-/

namespace QubitRotation.Reduction

open Circuit (alternates)

/-! ## Eligible places -/

/-- The axis about which the gate at a place turns, if there is one. -/
def axisAt? (gates : List Gate) (place : Nat) : Option Axis := gates[place]?.map Gate.axis

theorem axisAt?_of_lt {gates : List Gate} {place : Nat} (inside : place < gates.length) :
    axisAt? gates place = some gates[place].axis := by
  rw [axisAt?, List.getElem?_eq_getElem inside, Option.map_some]

/-- Moved behind the turn at `site`, the gate before it meets one about its own axis. -/
def JoinsRight (gates : List Gate) (site : Nat) : Prop :=
  site + 1 < gates.length ∧ axisAt? gates (site + 1) = axisAt? gates (site - 1)

/-- Moved to the left, the turn at `site` meets a gate about its own axis. -/
def JoinsLeft (gates : List Gate) (site : Nat) : Prop :=
  2 ≤ site ∧ axisAt? gates (site - 2) = axisAt? gates site

/-- The gate at `site` is a half turn, the gate before it turns about another axis, and one of the
two meets a gate about its own axis when they change places. -/
def EligibleAt (gates : List Gate) (site : Nat) : Prop :=
  1 ≤ site ∧ gates[site]?.any Gate.isHalfTurn = true ∧
    axisAt? gates (site - 1) ≠ axisAt? gates site ∧
    (JoinsRight gates site ∨ JoinsLeft gates site)

instance (gates : List Gate) (site : Nat) : Decidable (JoinsRight gates site) :=
  inferInstanceAs (Decidable (_ ∧ _))

instance (gates : List Gate) (site : Nat) : Decidable (JoinsLeft gates site) :=
  inferInstanceAs (Decidable (_ ∧ _))

instance (gates : List Gate) (site : Nat) : Decidable (EligibleAt gates site) :=
  inferInstanceAs (Decidable (_ ∧ _))

section Split

variable {front rest : List Gate} {left turn : Gate}

theorem axisAt?_left :
    axisAt? (front ++ left :: turn :: rest) front.length = some left.axis := by
  simp [axisAt?]

theorem axisAt?_turn :
    axisAt? (front ++ left :: turn :: rest) (front.length + 1) = some turn.axis := by
  simp [axisAt?]

theorem axisAt?_behind :
    axisAt? (front ++ left :: turn :: rest) (front.length + 2) = rest.head?.map Gate.axis := by
  rw [axisAt?, List.getElem?_append_right (Nat.le_add_right ..), Nat.add_sub_cancel_left,
    List.getElem?_cons_succ, List.getElem?_cons_succ, List.head?_eq_getElem?]

theorem joinsRight_split :
    JoinsRight (front ++ left :: turn :: rest) (front.length + 1) ↔
      rest.head?.any (·.axis = left.axis) = true := by
  rw [JoinsRight, axisAt?_behind, Nat.add_sub_cancel, axisAt?_left]
  cases rest with
  | nil => simp
  | cons after rest =>
      simp only [List.head?_cons, Option.map_some, Option.some.injEq, Option.any_some,
        decide_eq_true_eq, List.length_append, List.length_cons]
      exact ⟨And.right, fun joins => ⟨by omega, joins⟩⟩

theorem joinsLeft_split :
    JoinsLeft (front ++ left :: turn :: rest) (front.length + 1) ↔
      front.getLast?.any (·.axis = turn.axis) = true := by
  rw [JoinsLeft, axisAt?_turn]
  obtain rfl | ⟨earlier, before, rfl⟩ := front.eq_nil_or_concat'
  · simp
  · have place : (earlier ++ [before]).length + 1 - 2 = earlier.length := by simp
    rw [place, List.append_assoc, List.singleton_append, axisAt?_left]
    simp

/-- The condition that the rule checks with the neighbours of a pair at hand. -/
theorem eligibleAt_split :
    EligibleAt (front ++ left :: turn :: rest) (front.length + 1) ↔
      isEligible front.getLast? left turn rest.head? = true := by
  have half : (front ++ left :: turn :: rest)[front.length + 1]?.any Gate.isHalfTurn =
      turn.isHalfTurn := by
    simp
  rw [EligibleAt, half, joinsRight_split, joinsLeft_split, axisAt?_turn, Nat.add_sub_cancel,
    axisAt?_left, Ne, Option.some_inj]
  simp only [isEligible, Bool.and_eq_true, Bool.or_eq_true, bne_iff_ne]
  constructor
  · rintro ⟨_, isHalf, apart, joins⟩
    exact ⟨⟨apart, isHalf⟩, joins⟩
  · rintro ⟨⟨apart, isHalf⟩, joins⟩
    exact ⟨Nat.le_add_left .., isHalf, apart, joins⟩

end Split

theorem EligibleAt.lt_length {gates : List Gate} {site : Nat} (eligible : EligibleAt gates site) :
    site < gates.length := by
  obtain ⟨turn, present, _⟩ := (Option.any_eq_true _ _).mp eligible.2.1
  exact (List.getElem?_eq_some_iff.mp present).1

/-- Looking for a turn behind `front` is looking through the places behind it. -/
theorem siteFrom_eq_find? (front gates : List Gate) :
    siteFrom front.getLast? (front.length + 1) gates =
      (List.range' (front.length + 1) (gates.length - 1)).find?
        fun site => EligibleAt (front ++ gates) site := by
  induction gates generalizing front with
  | nil => rfl
  | cons left gates ih =>
      cases gates with
      | nil => rfl
      | cons turn rest =>
          have places : List.range' (front.length + 1) ((left :: turn :: rest).length - 1) =
              (front.length + 1) :: List.range' (front.length + 2) rest.length := List.range'_succ
          rw [places]
          by_cases eligible : isEligible front.getLast? left turn rest.head? = true
          · rw [siteFrom, if_pos eligible,
              List.find?_cons_of_pos (by simpa using eligibleAt_split.mpr eligible)]
          · have later := ih (front ++ [left])
            rw [List.getLast?_concat, List.length_append, List.append_assoc] at later
            rw [siteFrom, if_neg eligible,
              List.find?_cons_of_neg (by simpa using mt eligibleAt_split.mp eligible)]
            exact later

section Sites

variable {gates : List Gate} {site : Nat}

theorem reflectionSite?_eq_find? (gates : List Gate) :
    reflectionSite? gates =
      (List.range' 1 (gates.length - 1)).find? fun site => EligibleAt gates site :=
  siteFrom_eq_find? [] gates

/-- The rule finds the least eligible place. -/
theorem reflectionSite?_eq_some_iff :
    reflectionSite? gates = some site ↔ IsLeast {site | EligibleAt gates site} site := by
  rw [reflectionSite?_eq_find?, List.find?_range'_eq_some]
  simp only [decide_eq_true_eq, Bool.not_eq_true', decide_eq_false_iff_not]
  constructor
  · rintro ⟨eligible, _, first⟩
    refine ⟨eligible, fun other also => Nat.le_of_not_lt fun earlier => ?_⟩
    exact first other also.1 earlier also
  · rintro ⟨eligible, least⟩
    refine ⟨eligible, ?inside, fun other _ earlier also => ?first⟩
    case inside =>
      have bound := eligible.lt_length
      have positive : 1 ≤ site := eligible.1
      rw [List.mem_range'_1]
      omega
    case first => exact Nat.not_le_of_lt earlier (least also)

theorem reflectionSite?_eq_none_iff :
    reflectionSite? gates = none ↔ ∀ site, ¬EligibleAt gates site := by
  rw [reflectionSite?_eq_find?, List.find?_range'_eq_none]
  simp only [Bool.not_eq_true', decide_eq_false_iff_not]
  constructor
  · intro barred site eligible
    have bound := eligible.lt_length
    have positive : 1 ≤ site := eligible.1
    exact barred site positive (by omega) eligible
  · intro barred site _ _
    exact barred site

end Sites

/-! ## The move -/

/-- Of `gates`, the turn at `site` and the gate before it changed places, and that gate was turned
round. Nothing else changed. -/
structure MovedAt (gates moved : List Gate) (site : Nat) : Prop where
  length_eq : moved.length = gates.length
  turn_eq : moved[site - 1]? = gates[site]?
  passed_eq : moved[site]? = gates[site - 1]?.map Gate.inverse
  elsewhere : ∀ place, place ≠ site - 1 → place ≠ site → moved[place]? = gates[place]?

theorem movedAt_split (front rest : List Gate) (left turn : Gate) :
    MovedAt (front ++ left :: turn :: rest) (front ++ turn :: left.inverse :: rest)
      (front.length + 1) where
  length_eq := by simp
  turn_eq := by simp
  passed_eq := by simp
  elsewhere place notLeft notTurn := by
    obtain before | behind := Nat.lt_or_ge place front.length
    · rw [List.getElem?_append_left before, List.getElem?_append_left before]
    · rw [List.getElem?_append_right behind, List.getElem?_append_right behind]
      obtain ⟨further, rfl⟩ : ∃ further, place = front.length + (further + 2) :=
        ⟨place - front.length - 2, by omega⟩
      rw [Nat.add_sub_cancel_left]
      rfl

/-- The turn that the search finds is the one that the rule moves. -/
theorem reflectFrom_of_siteFrom {before? : Option Gate} {index site : Nat} {gates : List Gate}
    (found : siteFrom before? index gates = some site) :
    ∃ front left turn rest, gates = front ++ left :: turn :: rest ∧
      site = front.length + index ∧
      reflectFrom before? gates = some (front ++ turn :: left.inverse :: rest) := by
  induction gates generalizing before? index with
  | nil => cases found
  | cons left gates ih =>
      cases gates with
      | nil => cases found
      | cons turn rest =>
          by_cases eligible : isEligible before? left turn rest.head? = true
          · rw [siteFrom, if_pos eligible] at found
            cases found
            exact ⟨[], left, turn, rest, rfl, (Nat.zero_add _).symm,
              reflectFrom_of_eligible eligible⟩
          · rw [siteFrom, if_neg eligible] at found
            obtain ⟨front, passed, mover, behind, split, place, moved⟩ := ih found
            refine ⟨left :: front, passed, mover, behind, congrArg (left :: ·) split, ?_, ?_⟩
            · rw [place, List.length_cons, Nat.add_right_comm, Nat.add_assoc]
            · rw [reflectFrom_of_not_eligible eligible, moved]
              rfl

/-! ## Neighbours after the move -/

/-- Sequences set one behind the other have the neighbours of both, and two more where they
meet. -/
theorem joints_append_cons (front : List Gate) (gate : Gate) (rest : List Gate) :
    joints (front ++ gate :: rest) = joints front + joints (gate :: rest) +
      if front.getLast?.any (·.axis = gate.axis) then 1 else 0 := by
  induction front with
  | nil => simp [joints]
  | cons first front ih =>
      cases front with
      | nil =>
          rw [List.singleton_append, joints_cons]
          simp [joints]
      | cons second front =>
          rw [List.getLast?_cons_cons, List.cons_append, List.cons_append, joints_cons,
            joints_cons, ← List.cons_append, ih]
          omega

theorem joints_cons_eq (gate : Gate) (rest : List Gate) :
    joints (gate :: rest) =
      joints rest + if rest.head?.any (·.axis = gate.axis) then 1 else 0 := by
  cases rest with
  | nil => rfl
  | cons next rest => simp [joints_cons, eq_comm]

/-- Behind a move, neighbours about one axis are found only where one of the two gates joins. -/
theorem joints_of_moved {front rest : List Gate} {left turn : Gate}
    (unjoined : joints (front ++ left :: turn :: rest) = 0) :
    joints (front ++ turn :: left.inverse :: rest) =
      (if JoinsRight (front ++ left :: turn :: rest) (front.length + 1) then 1 else 0) +
        if JoinsLeft (front ++ left :: turn :: rest) (front.length + 1) then 1 else 0 := by
  rw [joints_append_cons, joints_cons, joints_cons_eq turn] at unjoined
  have apart : ¬left.axis = turn.axis := by
    intro same
    rw [if_pos same] at unjoined
    omega
  have still : ¬turn.axis = left.inverse.axis := Ne.symm apart
  rw [if_congr joinsRight_split rfl rfl, if_congr joinsLeft_split rfl rfl, joints_append_cons,
    joints_cons, if_neg still, joints_cons_eq, Gate.inverse_axis]
  omega

theorem joints_eq_zero {gates : List Gate} : joints gates = 0 ↔ alternates gates = true := by
  rw [← fuseRuns_count, fuseRuns_count_eq_zero]

/-- Moving a half turn always pays. On a sequence whose axes alternate the rule fires for the least
eligible place, if there is one. It keeps the length and changes the turn and the gate before it
only, and the merge that follows fires once if one of the two joins a neighbour and twice if both
do, for each gate that is lost. If no place is eligible nothing changes. -/
theorem half_turn_move_pays {gates : List Gate} (alternating : alternates gates = true) :
    ((reflection gates).count = 1 ∧
      ∃ site, reflectionSite? gates = some site ∧
        IsLeast {site | EligibleAt gates site} site ∧
        MovedAt gates (reflection gates).gates site ∧
        ∃ pass, merge (reflection gates).gates = .ok pass ∧
          pass.count = (if JoinsRight gates site then 1 else 0) +
            (if JoinsLeft gates site then 1 else 0) ∧
          1 ≤ pass.count ∧ pass.count ≤ 2 ∧
          pass.count + pass.gates.length = gates.length) ∨
    (reflection gates = ⟨0, gates⟩ ∧ reflectionSite? gates = none ∧
      ∀ site, ¬EligibleAt gates site) := by
  cases found : reflectionSite? gates with
  | none =>
      exact .inr ⟨reflection_of_no_site found, rfl, reflectionSite?_eq_none_iff.mp found⟩
  | some site =>
      have least := reflectionSite?_eq_some_iff.mp found
      obtain ⟨_, _, _, joins⟩ := least.1
      obtain ⟨front, left, turn, rest, rfl, rfl, moved⟩ := reflectFrom_of_siteFrom found
      have fired : reflection (front ++ left :: turn :: rest) =
          ⟨1, front ++ turn :: left.inverse :: rest⟩ := by
        rw [reflection, moved]
      have count := (fuseRuns_count _).trans (joints_of_moved (joints_eq_zero.mpr alternating))
      have shorter := fuseRuns_count_add_length (front ++ turn :: left.inverse :: rest)
      rw [fired]
      refine .inl ⟨rfl, _, rfl, least, movedAt_split front rest left turn, _, merge_eq _, ?_⟩
      refine ⟨count, ?positive, ?atMostTwo, shorter.trans ?kept⟩
      case positive =>
        rw [count]
        obtain right | left := joins
        · rw [if_pos right]
          exact Nat.le_add_right ..
        · rw [if_pos left]
          exact Nat.le_add_left ..
      case atMostTwo =>
        rw [count]
        split <;> split <;> decide
      case kept => simp

/-- A half turn in the third place with a partner on each side, one in the second with a partner on
its right, and one without any. -/
theorem half_turn_move_pays_of_sequences :
    let both : List Gate := [.y 10, .x 20, .y (-180), .x 30]
    let single : List Gate := [.x 90, .y 540, .x 90]
    let barred : List Gate := [.y 90, .x 180]
    (alternates both = true ∧ reflection both = ⟨1, [.y 10, .y (-180), .x (-20), .x 30]⟩ ∧
      IsLeast {site | EligibleAt both site} 2 ∧
      ∃ pass, merge (reflection both).gates = .ok pass ∧ pass.count = 2) ∧
    (alternates single = true ∧ reflection single = ⟨1, [.y 540, .x (-90), .x 90]⟩ ∧
      IsLeast {site | EligibleAt single site} 1 ∧
      ∃ pass, merge (reflection single).gates = .ok pass ∧ pass.count = 1) ∧
    alternates barred = true ∧ ∀ site, ¬EligibleAt barred site := by
  intro both single barred
  have bothAlternate : alternates both = true := by decide
  have singleAlternates : alternates single = true := by decide
  have barredAlternates : alternates barred = true := by decide
  have bothMoves : reflection both = ⟨1, [.y 10, .y (-180), .x (-20), .x 30]⟩ := by decide
  have singleMoves : reflection single = ⟨1, [.y 540, .x (-90), .x 90]⟩ := by decide
  refine ⟨⟨bothAlternate, bothMoves, ?_⟩, ⟨singleAlternates, singleMoves, ?_⟩,
    barredAlternates, ?_⟩
  · obtain ⟨_, site, found, least, _, pass, merged, count, _⟩ | ⟨idle, _⟩ :=
      half_turn_move_pays bothAlternate
    · obtain rfl : site = 2 := Option.some.inj (found.symm.trans (by decide))
      exact ⟨least, pass, merged, count.trans (by decide)⟩
    · cases idle.symm.trans bothMoves
  · obtain ⟨_, site, found, least, _, pass, merged, count, _⟩ | ⟨idle, _⟩ :=
      half_turn_move_pays singleAlternates
    · obtain rfl : site = 1 := Option.some.inj (found.symm.trans (by decide))
      exact ⟨least, pass, merged, count.trans (by decide)⟩
    · cases idle.symm.trans singleMoves
  · obtain ⟨fired, _⟩ | ⟨_, _, none⟩ := half_turn_move_pays barredAlternates
    · cases fired
    · exact none

end QubitRotation.Reduction
