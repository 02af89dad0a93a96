import QubitRotation.Proofs.Json.Reading

/-!
# The grammar of JSON

`WellFormed` says which texts are values of JSON: words, strings, numbers, and any nesting of
brackets with white space around every part. It does not ask what a value means, so numbers may be
of any size and strings may hold half of a pair.

A value of no interest is passed over as a whole (`takes_skipValue`). This takes some fronts, each
of which opens a bracket or passes over a value without parts, and the brackets that were open
before are open behind it. The induction is on the grammar, for any brackets around the value
(`WellFormed.passed`).
-/

namespace QubitRotation.Json

/-- The character that opens a bracket. -/
def Bracket.opening : Bracket → Char
  | array => '['
  | object => '{'

/-- A value without parts. -/
inductive Scalar : List Char → Prop
  | null : Scalar ['n', 'u', 'l', 'l']
  | bool (value : Bool) : Scalar (toString value).toList
  | text {parts : List (List Char)} : (∀ part ∈ parts, Fragment part) →
      Scalar ('"' :: (parts.flatten ++ ['"']))
  | number {literal : Literal} {text : List Char} : literal.Written text → Scalar text

/-- What stands in front of a value inside a bracket: nothing in an array, its name and a colon in
an object. -/
inductive Label : Bracket → List Char → Prop
  | item : Label .array []
  | name {before after : List Char} {parts : List (List Char)} : Spaces before →
      (∀ part ∈ parts, Fragment part) → Spaces after →
      Label .object (before ++ '"' :: (parts.flatten ++ '"' :: (after ++ [':'])))

mutual

/-- A value of JSON. -/
inductive WellFormed : List Char → Prop
  | scalar {text : List Char} : Scalar text → WellFormed text
  | empty {bracket : Bracket} {space : List Char} : Spaces space →
      WellFormed (bracket.opening :: (space ++ [bracket.closing]))
  | filled {bracket : Bracket} {parts : List Char} : Parts bracket parts →
      WellFormed (bracket.opening :: (parts ++ [bracket.closing]))

/-- The parts inside a bracket, with commas between them. -/
inductive Parts : Bracket → List Char → Prop
  | last {bracket : Bracket} {label before value after : List Char} : Label bracket label →
      Spaces before → WellFormed value → Spaces after →
      Parts bracket (label ++ (before ++ (value ++ after)))
  | more {bracket : Bracket} {label before value after others : List Char} : Label bracket label →
      Spaces before → WellFormed value → Spaces after → Parts bracket others →
      Parts bracket (label ++ (before ++ (value ++ (after ++ ',' :: others))))

end

variable {bracket : Bracket} {opened : List Bracket} {space before rest text : List Char}

/-! ## How values begin -/

theorem Scalar.front (scalar : Scalar text) :
    ∃ c others, text = c :: others ∧ isSpace c = false ∧ c ≠ ']' ∧ c ≠ '[' ∧ c ≠ '{' := by
  cases scalar with
  | null => exact ⟨_, _, rfl, by decide, by decide, by decide, by decide⟩
  | bool value => cases value <;> exact ⟨_, _, rfl, by decide, by decide, by decide, by decide⟩
  | text => exact ⟨_, _, rfl, by decide, by decide, by decide, by decide⟩
  | number written =>
      obtain ⟨c, others, rfl, numeral⟩ := written.exists_eq
      refine ⟨c, others, rfl, isSpace_eq_false numeral, ?_, ?_, ?_⟩
      all_goals
        rintro rfl
        exact absurd numeral (by decide)

theorem WellFormed.front (wellFormed : WellFormed text) :
    ∃ c others, text = c :: others ∧ isSpace c = false ∧ c ≠ ']' := by
  cases wellFormed with
  | scalar scalar =>
      obtain ⟨c, others, written, solid, going, _⟩ := scalar.front
      exact ⟨c, others, written, solid, going⟩
  | @empty bracket => cases bracket <;> exact ⟨_, _, rfl, by decide, by decide⟩
  | @filled bracket => cases bracket <;> exact ⟨_, _, rfl, by decide, by decide⟩

/-- A part does not begin with the bracket that would close an empty array or object. -/
theorem Label.skipSpace_eq {label value : List Char} (labelled : Label bracket label)
    (spaces : Spaces before) (wellFormed : WellFormed value) (rest : List Char) :
    ∃ c others, skipSpace (label ++ (before ++ (value ++ rest))) = c :: others ∧
      c ≠ bracket.closing := by
  cases labelled with
  | item =>
      obtain ⟨c, others, rfl, solid, going⟩ := wellFormed.front
      exact ⟨c, _, skipSpace_front spaces solid _, going⟩
  | name front =>
      rw [List.append_assoc]
      exact ⟨'"', _, skipSpace_front front rfl _, by decide⟩

theorem Parts.skipSpace_eq {parts : List Char} (inside : Parts bracket parts) (rest : List Char) :
    ∃ c others, skipSpace (parts ++ rest) = c :: others ∧ c ≠ bracket.closing := by
  cases inside with
  | last labelled spaces wellFormed =>
      simp only [List.append_assoc]
      exact labelled.skipSpace_eq spaces wellFormed _
  | more labelled spaces wellFormed =>
      simp only [List.append_assoc]
      exact labelled.skipSpace_eq spaces wellFormed _

/-! ## Fronts -/

theorem skipScalar_scalar (scalar : Scalar text) (stops : Stops rest) :
    skipScalar (text ++ rest) = .ok rest := by
  cases scalar with
  | null => rfl
  | bool value => cases value <;> rfl
  | text fragments =>
      rw [List.cons_append, List.append_assoc, skipScalar, skipSpace_cons rfl]
      change orBroken (skipText _) = _
      rw [List.singleton_append, skipText_fragments fragments]
      rfl
  | number written =>
      have scanned := written.scan stops.ends
      obtain ⟨c, others, rfl, numeral⟩ := written.exists_eq
      rw [List.cons_append] at scanned ⊢
      rw [skipScalar, skipSpace_cons (isSpace_eq_false numeral)]
      split
      case h_5 => rw [scanned]; rfl
      all_goals
        next other =>
          obtain ⟨rfl, _⟩ := List.cons_eq_cons.mp other
          exact absurd numeral (by decide)

/-- A name and its colon are passed over. -/
theorem enter_label {label : List Char} (labelled : Label bracket label) (rest : List Char) :
    bracket.enter (label ++ rest) = .ok rest := by
  cases labelled with
  | item => rfl
  | name front fragments back =>
      simp only [List.append_assoc, List.cons_append]
      rw [Bracket.enter, skipKey, skipSpace_front front rfl]
      change orBroken (skipText _) >>= _ = _
      rw [skipText_fragments fragments]
      change expect ':' _ >>= _ = _
      rw [expect, skipSpace_front back rfl]
      rfl

theorem skipFront_scalar (scalar : Scalar text) (spaces : Spaces space) (stops : Stops rest) :
    skipFront opened (space ++ (text ++ rest)) = closeBrackets opened rest := by
  have skipped : skipScalar (text ++ rest) = .ok rest := skipScalar_scalar scalar stops
  obtain ⟨c, others, rfl, solid, _, noArray, noObject⟩ := scalar.front
  rw [List.cons_append] at skipped ⊢
  rw [skipFront, skipSpace_front spaces solid]
  split
  next other => exact absurd (List.cons_eq_cons.mp other).1 noArray
  next other => exact absurd (List.cons_eq_cons.mp other).1 noObject
  next => rw [skipped]; rfl

theorem skipFront_empty (spaces : Spaces space) {inner : List Char} (inside : Spaces inner)
    (rest : List Char) :
    skipFront opened (space ++ bracket.opening :: (inner ++ bracket.closing :: rest)) =
      closeBrackets opened rest := by
  cases bracket with
  | array =>
      have opening : skipSpace (space ++ '[' :: (inner ++ ']' :: rest)) = _ :=
        skipSpace_front spaces rfl _
      have closing : skipSpace (inner ++ ']' :: rest) = _ := skipSpace_front inside rfl rest
      simp only [Bracket.opening, Bracket.closing, skipFront, opening, closing]
  | object =>
      have opening : skipSpace (space ++ '{' :: (inner ++ '}' :: rest)) = _ :=
        skipSpace_front spaces rfl _
      have closing : skipSpace (inner ++ '}' :: rest) = _ := skipSpace_front inside rfl rest
      simp only [Bracket.opening, Bracket.closing, skipFront, opening, closing]

/-- A bracket with something in it stays open. -/
theorem skipFront_filled (spaces : Spaces space) {c : Char} {others : List Char}
    (front : skipSpace text = c :: others) (going : c ≠ bracket.closing) :
    skipFront opened (space ++ bracket.opening :: text) = do
      return (bracket :: opened, ← bracket.enter text) := by
  cases bracket with
  | array =>
      have opening : skipSpace (space ++ '[' :: text) = _ := skipSpace_front spaces rfl _
      have more : c ≠ ']' := going
      simp [Bracket.opening, skipFront, opening, front, more, Bracket.enter]
  | object =>
      have opening : skipSpace (space ++ '{' :: text) = _ := skipSpace_front spaces rfl _
      have more : c ≠ '}' := going
      simp [Bracket.opening, skipFront, opening, front, more, Bracket.enter]

theorem closeBrackets_closing (spaces : Spaces space) (rest : List Char) :
    closeBrackets (bracket :: opened) (space ++ bracket.closing :: rest) =
      closeBrackets opened rest := by
  have solid : isSpace bracket.closing = false := by cases bracket <;> rfl
  have noComma : bracket.closing ≠ ',' := by cases bracket <;> decide
  rw [closeBrackets, skipSpace_front spaces solid]
  simp only [if_neg noComma, if_true]

theorem closeBrackets_comma (spaces : Spaces space) (rest : List Char) :
    closeBrackets (bracket :: opened) (space ++ ',' :: rest) = do
      return (bracket :: opened, ← bracket.enter rest) := by
  rw [closeBrackets, skipSpace_front spaces rfl]
  rfl

/-! ## Whole values -/

/-- Goes on behind a front, unless no bracket is left open. -/
def goOn (bound : List Char) : List Bracket × List Char → Except Fault (List Char)
  | ([], rest) => .ok rest
  | (opened, rest) => skipOpened bound opened rest

theorem skipOpened_cons (c : Char) (bound : List Char) (opened : List Bracket)
    (text : List Char) :
    skipOpened (c :: bound) opened text = skipFront opened text >>= goOn bound := by
  rw [skipOpened]
  congr 1

/-- Passing over a value takes `count` fronts and ends where a value has just ended, whatever
brackets are open around it. -/
def PassedIn (count : Nat) (value : List Char) : Prop :=
  ∀ {front : List Char}, front.length = count →
    ∀ (bound : List Char) (opened : List Bracket) {space rest : List Char}, Spaces space →
      Stops rest → skipOpened (front ++ bound) opened (space ++ (value ++ rest)) =
        closeBrackets opened rest >>= goOn bound

/-- Passing over the parts inside a bracket, and the bracket that closes it. -/
def PartsPassedIn (bracket : Bracket) (count : Nat) (parts : List Char) : Prop :=
  ∀ {front : List Char}, front.length = count →
    ∀ (bound : List Char) (opened : List Bracket) (rest : List Char),
      bracket.enter (parts ++ bracket.closing :: rest) >>=
          skipOpened (front ++ bound) (bracket :: opened) =
        closeBrackets opened rest >>= goOn bound

theorem passedIn_one {value : List Char}
    (front : ∀ (opened : List Bracket) {space rest : List Char}, Spaces space → Stops rest →
      skipFront opened (space ++ (value ++ rest)) = closeBrackets opened rest) :
    PassedIn 1 value := by
  intro bounding single bound opened space rest spaces stops
  obtain ⟨c, rfl⟩ := List.length_eq_one_iff.mp single
  rw [List.singleton_append, skipOpened_cons, front opened spaces stops]

theorem stops_closing (bracket : Bracket) (rest : List Char) :
    Stops (bracket.closing :: rest) := by
  cases bracket with
  | array => exact stops_cons (.inr (.inl rfl)) rest
  | object => exact stops_cons (.inr (.inr rfl)) rest

theorem passedIn_filled {parts : List Char} (inside : Parts bracket parts) {count : Nat}
    (passed : PartsPassedIn bracket count parts) :
    PassedIn (count + 1) (bracket.opening :: (parts ++ [bracket.closing])) := by
  intro front length bound opened space rest spaces _
  obtain ⟨c, front, rfl⟩ := List.exists_cons_of_length_eq_add_one length
  obtain ⟨first, others, begins, going⟩ := inside.skipSpace_eq (bracket.closing :: rest)
  have counted : front.length = count := Nat.succ.inj length
  rw [← passed counted bound opened rest]
  simp only [List.cons_append, List.append_assoc, List.nil_append]
  rw [skipOpened_cons, skipFront_filled spaces begins going, bind_assoc]
  rfl

theorem partsPassedIn_last {label value after : List Char} {count : Nat}
    (labelled : Label bracket label) (spaces : Spaces before) (passed : PassedIn count value)
    (behind : Spaces after) :
    PartsPassedIn bracket count (label ++ (before ++ (value ++ after))) := by
  intro front length bound opened rest
  have stops : Stops (after ++ bracket.closing :: rest) :=
    (stops_closing bracket rest).append behind
  simp only [List.append_assoc]
  rw [enter_label labelled]
  change skipOpened _ _ _ = _
  rw [passed length bound _ spaces stops, closeBrackets_closing behind]

theorem partsPassedIn_more {label value after others : List Char} {count more : Nat}
    (labelled : Label bracket label) (spaces : Spaces before) (passed : PassedIn count value)
    (behind : Spaces after) (passedOthers : PartsPassedIn bracket more others) :
    PartsPassedIn bracket (count + more)
      (label ++ (before ++ (value ++ (after ++ ',' :: others)))) := by
  intro front length bound opened rest
  obtain ⟨first, second, rfl, counted, countedOthers⟩ :
      ∃ first second, front = first ++ second ∧ first.length = count ∧ second.length = more :=
    ⟨front.take count, front.drop count, (List.take_append_drop count front).symm,
      by rw [List.length_take]; omega, by rw [List.length_drop]; omega⟩
  have stops : Stops (after ++ ',' :: (others ++ bracket.closing :: rest)) :=
    (stops_cons (.inl rfl) _).append behind
  simp only [List.append_assoc, List.cons_append]
  rw [enter_label labelled]
  change skipOpened _ _ _ = _
  rw [passed counted (second ++ bound) _ spaces stops, closeBrackets_comma behind, bind_assoc]
  exact passedOthers countedOthers bound opened rest

mutual

/-- A value is passed over in no more fronts than it has characters. -/
theorem WellFormed.passed : {value : List Char} → WellFormed value →
    ∃ count, count ≤ value.length ∧ PassedIn count value
  | _, .scalar scalar => by
      refine ⟨1, ?_, passedIn_one fun _ => skipFront_scalar scalar⟩
      obtain ⟨c, others, rfl, _⟩ := scalar.front
      exact Nat.succ_pos _
  | _, .empty inside => by
      refine ⟨1, Nat.succ_pos _, passedIn_one fun opened space rest spaces _ => ?_⟩
      simp only [List.cons_append, List.append_assoc, List.nil_append]
      exact skipFront_empty spaces inside rest
  | _, .filled inside => by
      obtain ⟨count, short, passed⟩ := inside.passed
      refine ⟨count + 1, ?_, passedIn_filled inside passed⟩
      simp only [List.length_cons, List.length_append]
      omega

theorem Parts.passed : {bracket : Bracket} → {parts : List Char} → Parts bracket parts →
    ∃ count, count ≤ parts.length ∧ PartsPassedIn bracket count parts
  | _, _, .last labelled spaces wellFormed behind => by
      obtain ⟨count, short, passed⟩ := wellFormed.passed
      refine ⟨count, ?_, partsPassedIn_last labelled spaces passed behind⟩
      simp only [List.length_append]
      omega
  | _, _, .more labelled spaces wellFormed behind inside => by
      obtain ⟨count, short, passed⟩ := wellFormed.passed
      obtain ⟨more, shortOthers, passedOthers⟩ := inside.passed
      refine ⟨count + more, ?_, partsPassedIn_more labelled spaces passed behind passedOthers⟩
      simp only [List.length_append, List.length_cons]
      omega

end

/-- A value of no interest is passed over, whatever it is. -/
theorem takes_skipValue {value : List Char} (wellFormed : WellFormed value) :
    Takes skipValue value () where
  front := wellFormed.front
  read {space rest} spaces stops := by
    obtain ⟨count, short, passed⟩ := wellFormed.passed
    -- The text bounds the number of fronts.
    have enough : ((space ++ (value ++ rest)).take count).length = count := by
      simp only [List.length_take, List.length_append]
      omega
    have skipped := passed enough ((space ++ (value ++ rest)).drop count) [] spaces stops
    rw [List.take_append_drop] at skipped
    rw [skipValue, skipped]
    rfl

end QubitRotation.Json
