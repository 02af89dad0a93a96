import QubitRotation.Proofs.Notation

/-!
# Which fault a text is refused for

A text that is refused is blank, or it has a leftmost piece that is no token. The fault is the one
of this piece and names it without the white space around it (`exists_of_readPiece`,
`readPieces_eq_error_iff`); nothing behind the piece matters. Texts with a comma between them are
therefore read one after the other (`readPieces_append`).
-/

namespace QubitRotation.Notation

open Text (Blank trim)

theorem readPieces_of_blank {text : List Char} (blank : Blank text) :
    readPieces text = .error .emptyCircuit :=
  if_pos (List.all_eq_true.mpr blank)

theorem readPieces_of_filled {text : List Char} (filled : ¬Blank text) :
    readPieces text = (text.splitOn ',').mapM readPiece :=
  if_neg fun blank => filled (List.all_eq_true.mp blank)

/-- The fault of a piece names the piece without the white space around it. -/
theorem exists_of_readPiece {piece : List Char} {fault : Fault}
    (refused : readPiece piece = .error fault) :
    ∃ reason, readToken (trim piece) = .error reason ∧
      fault = .malformedToken (String.ofList (trim piece)) reason.message := by
  obtain ⟨reason, why, rfl⟩ := Except.mapError_eq_error_iff.mp refused
  exact ⟨reason, why, rfl⟩

theorem readPieces_eq_error_iff {text : List Char} (filled : ¬Blank text) {fault : Fault} :
    readPieces text = .error fault ↔
      ∃ before piece after, text.splitOn ',' = before ++ piece :: after ∧
        (∀ earlier ∈ before, ∃ gate, readPiece earlier = .ok gate) ∧
        readPiece piece = .error fault := by
  rw [readPieces_of_filled filled, Except.mapM_eq_error_iff]

theorem readPieces_eq_emptyCircuit_iff {text : List Char} :
    readPieces text = .error .emptyCircuit ↔ Blank text := by
  refine ⟨fun refused => ?_, readPieces_of_blank⟩
  by_contra filled
  obtain ⟨_, piece, _, _, _, bad⟩ := (readPieces_eq_error_iff filled).mp refused
  obtain ⟨reason, _, malformed⟩ := exists_of_readPiece bad
  cases malformed

/-- A text can only be refused for what its author wrote. -/
theorem isInputFault_of_readPieces {text : List Char} {fault : Fault}
    (refused : readPieces text = .error fault) :
    fault.isInputFault = true ∧ fault.isInternal = false := by
  by_cases blank : Blank text
  · obtain rfl := Except.error.inj ((readPieces_of_blank blank).symm.trans refused)
    exact ⟨rfl, rfl⟩
  · obtain ⟨_, piece, _, _, _, bad⟩ := (readPieces_eq_error_iff blank).mp refused
    obtain ⟨reason, _, rfl⟩ := exists_of_readPiece bad
    exact ⟨rfl, rfl⟩

theorem readPieces_append {first second : List Char} (filledFirst : ¬Blank first)
    (filledSecond : ¬Blank second) :
    readPieces (first ++ ',' :: second) = do
      let gates ← readPieces first
      let others ← readPieces second
      return gates ++ others := by
  have filled : ¬Blank (first ++ ',' :: second) := fun blank =>
    filledFirst (Text.blank_append_iff.mp blank).1
  rw [readPieces_of_filled filled, readPieces_of_filled filledFirst,
    readPieces_of_filled filledSecond, List.splitOn_append_cons_self, List.mapM_append]

/-- A blank text is refused as empty. Any other text is refused exactly for the leftmost of its
pieces between commas that is no token, with the fault that this piece has on its own; the fault
names the piece without the white space around it. Two texts with a comma between them give the
gates of both, or else the fault of the first, or else the fault of the second. Every fault lies in
what was written. -/
theorem readGates_reports_leftmost :
    (∀ text : String, readGates text = .error .emptyCircuit ↔ Blank text.toList) ∧
    (∀ text : String, ¬Blank text.toList → ∀ fault, readGates text = .error fault ↔
      ∃ before piece after, text.toList.splitOn ',' = before ++ piece :: after ∧
        (∀ earlier ∈ before, ∃ gate, readGate (String.ofList earlier) = .ok gate) ∧
        readGate (String.ofList piece) = .error fault ∧
        ∃ reason, fault = .malformedToken (String.ofList (trim piece)) reason) ∧
    (∀ first second : String, ¬Blank first.toList → ¬Blank second.toList →
      readGates (first ++ "," ++ second) = do
        let gates ← readGates first
        let others ← readGates second
        return gates ++ others) ∧
    (∀ (text : String) (fault : Fault), readGates text = .error fault →
      fault.isInputFault = true ∧ fault.isInternal = false) := by
  refine ⟨fun text => readPieces_eq_emptyCircuit_iff, ?leftmost, ?joined, ?input⟩
  case leftmost =>
    intro text filled fault
    simp only [readGate, String.toList_ofList]
    rw [readGates, readPieces_eq_error_iff filled]
    constructor
    · rintro ⟨before, piece, after, split, proper, bad⟩
      obtain ⟨reason, _, malformed⟩ := exists_of_readPiece bad
      exact ⟨before, piece, after, split, proper, bad, reason.message, malformed⟩
    · rintro ⟨before, piece, after, split, proper, bad, _⟩
      exact ⟨before, piece, after, split, proper, bad⟩
  case joined =>
    intro first second filledFirst filledSecond
    have text : (first ++ "," ++ second).toList = first.toList ++ ',' :: second.toList := by simp
    rw [readGates, text]
    exact readPieces_append filledFirst filledSecond
  case input => exact fun text fault => isInputFault_of_readPieces

/-- Of a blank piece and an unknown axis behind it the blank piece is reported. -/
theorem readGates_reports_leftmost_of_blank_piece :
    let first := "X(90),Y(+1)"
    let second := " \t,Q(10)"
    let fault := Fault.malformedToken "" "empty token"
    (¬Blank first.toList ∧ ¬Blank second.toList ∧ readGates second = .error fault) ∧
    (∃ before piece after, second.toList.splitOn ',' = before ++ piece :: after ∧
      (∀ earlier ∈ before, ∃ gate, readGate (String.ofList earlier) = .ok gate) ∧
      readGate (String.ofList piece) = .error fault ∧
      ∃ reason, fault = .malformedToken (String.ofList (trim piece)) reason) ∧
    readGates (first ++ "," ++ second) = .error fault ∧
    fault.isInputFault = true ∧ fault.isInternal = false := by
  intro first second fault
  have filledFirst : ¬Blank first.toList := by decide
  have filledSecond : ¬Blank second.toList := by decide
  have accepted : readGates first = .ok [.x 90, .y 1] := by decide +kernel
  have refused : readGates second = .error fault := by decide +kernel
  obtain ⟨_, leftmost, joined, input⟩ := readGates_reports_leftmost
  refine ⟨⟨filledFirst, filledSecond, refused⟩, (leftmost second filledSecond fault).mp refused, ?_,
    input second fault refused⟩
  rw [joined first second filledFirst filledSecond, accepted, refused]
  rfl

end QubitRotation.Notation
