import Mathlib.Algebra.Order.Ring.Int
import QubitRotation.Notation
import QubitRotation.Proofs.Lists
import QubitRotation.Proofs.Numeral
import QubitRotation.Proofs.Results
import QubitRotation.Proofs.Text.Blank

/-!
# The grammar of gate sequences

`Token` and `Piece` say what the written form of a rotation is, without reading it. Reading a
token, a piece or a whole text succeeds exactly on these forms (`readToken_eq_ok_iff`,
`readPiece_eq_ok_iff`, `readPieces_eq_ok_iff`), and what is written has them (`token_text`), so
written sequences are read back. The two main statements are `readGates_accepts_grammar` and
`readGates_writeGates`.
-/

namespace QubitRotation.Notation

open Numeral (Spells)
open Text (isBlank Blank Trimmed trim)

/-- A token that stands for a rotation about an axis: its letter and, in round brackets, a numeral. -/
inductive Token (axis : Axis) (angle : Int) : List Char → Prop
  | intro {numeral : List Char} (spells : Spells numeral angle) :
      Token axis angle (axis.letter :: '(' :: numeral ++ [')'])

/-- A token with white space around it. -/
inductive Piece (axis : Axis) (angle : Int) : List Char → Prop
  | intro {before token after : List Char} (blankBefore : Blank before)
      (proper : Token axis angle token) (blankAfter : Blank after) :
      Piece axis angle (before ++ token ++ after)

/-! ## Tokens -/

theorem inBrackets_eq_ok_iff {text inner : List Char} :
    inBrackets text = .ok inner ↔ text = '(' :: inner ++ [')'] := by
  unfold inBrackets
  split
  next rest =>
    split
    next closed =>
      obtain ⟨content, rfl⟩ := List.getLast?_eq_some_iff.mp closed
      simp
    next unclosed =>
      refine ⟨nofun, ?_⟩
      intro whole
      obtain ⟨_, rfl⟩ := List.cons_eq_cons.mp whole
      simp at unclosed
  next unopened =>
    refine ⟨nofun, ?_⟩
    rintro rfl
    exact absurd rfl (unopened _)

theorem readAngle_eq_ok_iff {numeral : List Char} {angle : Angle} :
    readAngle numeral = .ok angle ↔ Spells numeral angle.toInt := by
  unfold readAngle
  split
  next none =>
    exact ⟨nofun, fun spells => absurd (List.isEmpty_iff.mp none) spells.ne_nil⟩
  next =>
    rw [Except.mapError_eq_ok_iff, Numeral.readInt64_eq_ok_iff]

theorem token_cons_iff {axis : Axis} {angle : Int} {letter : Char} {rest : List Char} :
    Token axis angle (letter :: rest) ↔
      letter = axis.letter ∧ ∃ numeral, rest = '(' :: numeral ++ [')'] ∧ Spells numeral angle := by
  constructor
  · rintro ⟨spells⟩
    exact ⟨rfl, _, rfl, spells⟩
  · rintro ⟨rfl, numeral, rfl, spells⟩
    exact .intro spells

theorem readToken_eq_ok_iff {token : List Char} {gate : Gate} :
    readToken token = .ok gate ↔ Token gate.axis gate.angle.toInt token := by
  unfold readToken
  split
  next => exact ⟨nofun, nofun⟩
  next letter rest =>
    rw [token_cons_iff]
    cases named : Axis.ofLetter? letter with
    | none =>
        refine ⟨nofun, ?_⟩
        rintro ⟨rfl, _⟩
        simp at named
    | some axis =>
        obtain rfl := Axis.ofLetter?_eq_some_iff.mp named
        simp only [Except.bind_eq_ok_iff, inBrackets_eq_ok_iff, readAngle_eq_ok_iff]
        constructor
        · rintro ⟨numeral, bracketed, angle, spells, made⟩
          cases made
          exact ⟨rfl, numeral, bracketed, spells⟩
        · rintro ⟨same, numeral, bracketed, spells⟩
          have about : axis = gate.axis := by
            simpa using congrArg Axis.ofLetter? same
          subst about
          exact ⟨numeral, bracketed, gate.angle, spells, rfl⟩

/-- No token starts or ends with white space. -/
theorem Token.trimmed {axis : Axis} {angle : Int} {token : List Char}
    (proper : Token axis angle token) : Trimmed token := by
  obtain ⟨spells⟩ := proper
  refine ⟨?_, ?_⟩
  · intro c first
    obtain rfl : axis.letter = c := by simpa using first
    cases axis <;> decide
  · intro c last
    rw [List.getLast?_concat] at last
    obtain rfl : ')' = c := Option.some.inj last
    decide

/-- Every character of a token is a letter of an axis, a bracket, a sign or a digit; a comma is
none of these. -/
theorem Token.comma_not_mem {axis : Axis} {angle : Int} {token : List Char}
    (proper : Token axis angle token) : ',' ∉ token := by
  obtain ⟨spells⟩ := proper
  have noLetter : ',' ≠ axis.letter := by cases axis <;> decide
  have noNumeral : ',' ∉ _ := fun member => absurd (spells.forall_mem ',' member) (by decide)
  simp [noLetter, noNumeral]

theorem readPiece_eq_ok_iff {piece : List Char} {gate : Gate} :
    readPiece piece = .ok gate ↔ Piece gate.axis gate.angle.toInt piece := by
  unfold readPiece
  rw [Except.mapError_eq_ok_iff, readToken_eq_ok_iff]
  constructor
  · intro proper
    obtain ⟨before, after, whole, blankBefore, blankAfter⟩ := Text.exists_eq_trim piece
    rw [whole]
    exact .intro blankBefore proper blankAfter
  · rintro ⟨blankBefore, proper, blankAfter⟩
    have core := Text.trim_eq_iff.mpr ⟨proper.trimmed, _, _, rfl, blankBefore, blankAfter⟩
    rwa [core]

theorem readPieces_eq_ok_iff {text : List Char} {gates : List Gate} :
    readPieces text = .ok gates ↔
      ¬Blank text ∧
        List.Forall₂ (fun piece gate => Piece gate.axis gate.angle.toInt piece)
          (text.splitOn ',') gates := by
  unfold readPieces
  split
  next blank =>
    refine ⟨nofun, ?_⟩
    rintro ⟨filled, _⟩
    exact absurd (List.all_eq_true.mp blank) filled
  next filled =>
    rw [Except.mapM_eq_ok_iff]
    simp only [readPiece_eq_ok_iff]
    rw [List.all_eq_true] at filled
    exact (and_iff_right filled).symm

theorem ne_nil_of_readPieces {text : List Char} {gates : List Gate}
    (accepted : readPieces text = .ok gates) : gates ≠ [] := by
  rintro rfl
  obtain ⟨_, matched⟩ := readPieces_eq_ok_iff.mp accepted
  exact List.splitOn_ne_nil _ _ (List.forall₂_nil_right_iff.mp matched)

theorem Piece.exists_gate {axis : Axis} {angle : Int} {piece : List Char}
    (proper : Piece axis angle piece) (low : -2 ^ 63 ≤ angle) (high : angle ≤ 2 ^ 63 - 1) :
    ∃ gate : Gate, Piece gate.axis gate.angle.toInt piece := by
  refine ⟨⟨axis, Int64.ofInt angle⟩, ?_⟩
  rwa [Int64.toInt_ofInt_of_le low (Int.lt_of_le_sub_one high)]

/-- A piece has room for a letter, two brackets and a digit. -/
theorem Piece.four_le_length {axis : Axis} {angle : Int} {piece : List Char}
    (proper : Piece axis angle piece) : 4 ≤ piece.length := by
  obtain ⟨_, ⟨spells⟩, _⟩ := proper
  have digit := List.length_pos_iff.mpr spells.ne_nil
  simp only [List.length_append, List.length_cons, List.length_nil]
  omega

/-- A text holds at most one gate for every four characters. -/
theorem length_le_of_readPieces {text : List Char} {gates : List Gate}
    (accepted : readPieces text = .ok gates) : 4 * gates.length ≤ text.length := by
  obtain ⟨_, matched⟩ := readPieces_eq_ok_iff.mp accepted
  have long : ∀ piece ∈ text.splitOn ',', 4 ≤ piece.length := by
    intro piece member
    obtain ⟨gate, form⟩ := List.exists_forall₂_iff.mp ⟨gates, matched⟩ piece member
    exact form.four_le_length
  have bounded := List.length_intercalate_ge ',' long
  rwa [List.intercalate_splitOn, matched.length_eq] at bounded

/-- The reader accepts exactly the texts that are not blank and whose pieces between commas are
tokens with white space around them, each with a value that fits in 64 bits. It reads one gate
from each piece, in order, about that axis and by exactly that angle. -/
theorem readGates_accepts_grammar (text : String) :
    (∀ gates, readGates text = .ok gates ↔
      ¬Blank text.toList ∧
        List.Forall₂ (fun piece gate => Piece gate.axis gate.angle.toInt piece)
          (text.toList.splitOn ',') gates) ∧
    ((∃ gates, readGates text = .ok gates) ↔
      ¬Blank text.toList ∧
        ∀ piece ∈ text.toList.splitOn ',', ∃ axis angle,
          Piece axis angle piece ∧ -2 ^ 63 ≤ angle ∧ angle ≤ 2 ^ 63 - 1) := by
  refine ⟨fun gates => readPieces_eq_ok_iff, ?_⟩
  constructor
  · rintro ⟨gates, accepted⟩
    obtain ⟨filled, matched⟩ := readPieces_eq_ok_iff.mp accepted
    refine ⟨filled, ?_⟩
    intro piece member
    obtain ⟨gate, form⟩ := List.exists_forall₂_iff.mp ⟨gates, matched⟩ piece member
    exact ⟨gate.axis, gate.angle.toInt, form, gate.angle.le_toInt,
      Int.le_sub_one_of_lt gate.angle.toInt_lt⟩
  · rintro ⟨filled, proper⟩
    have gated (piece : List Char) (member : piece ∈ text.toList.splitOn ',') :
        ∃ gate : Gate, Piece gate.axis gate.angle.toInt piece := by
      obtain ⟨axis, angle, form, low, high⟩ := proper piece member
      exact form.exists_gate low high
    obtain ⟨gates, matched⟩ := List.exists_forall₂_iff.mpr gated
    exact ⟨gates, readPieces_eq_ok_iff.mpr ⟨filled, matched⟩⟩

/-! ## Writing -/

theorem toList_text (gate : Gate) :
    gate.text.toList = gate.axis.letter :: '(' :: (toString gate.angle.toInt).toList ++ [')'] := by
  change (gate.axis.letter.toString ++ "(" ++ toString gate.angle.toInt ++ ")").toList = _
  simp

theorem token_text (gate : Gate) : Token gate.axis gate.angle.toInt gate.text.toList := by
  rw [toList_text]
  exact .intro (Numeral.spells_toString gate.angle.toInt)

theorem Token.piece {axis : Axis} {angle : Int} {token : List Char}
    (proper : Token axis angle token) : Piece axis angle token := by
  have bare := @Piece.intro axis angle [] token [] nofun proper nofun
  rwa [List.nil_append, List.append_nil] at bare

theorem toList_writeGates (gates : List Gate) :
    (writeGates gates).toList = [','].intercalate (gates.map (·.text.toList)) := by
  rw [writeGates, String.toList_intercalate, List.map_map]
  rfl

/-- What is written is read back. -/
theorem readPieces_writeGates {gates : List Gate} (some : gates ≠ []) :
    readPieces (writeGates gates).toList = .ok gates := by
  have split : (writeGates gates).toList.splitOn ',' = gates.map (·.text.toList) := by
    rw [toList_writeGates]
    apply List.splitOn_intercalate
    · intro piece member
      obtain ⟨gate, _, rfl⟩ := List.mem_map.mp member
      exact (token_text gate).comma_not_mem
    · rwa [Ne, List.map_eq_nil_iff]
  rw [readPieces_eq_ok_iff, split, List.forall₂_map_left_iff, List.forall₂_same]
  refine ⟨?_, fun gate _ => (token_text gate).piece⟩
  intro blank
  obtain ⟨gate, rest, rfl⟩ := List.exists_cons_of_ne_nil some
  have first : gate.axis.letter ∈ (writeGates (gate :: rest)).toList := by
    rw [toList_writeGates, List.map_cons, toList_text]
    cases rest with
    | nil => simp
    | cons => simp [List.intercalate_cons_cons]
  exact absurd (blank _ first) (by cases gate.axis <;> decide)

/-- Writing and reading are inverse to each other on sequences, and writing what was read from a
text gives a canonical form of it. No gates are written as the empty text, which is refused. -/
theorem readGates_writeGates :
    (∀ gates, gates ≠ [] → readGates (writeGates gates) = .ok gates) ∧
    (writeGates [] = "" ∧ readGates "" = .error .emptyCircuit) ∧
    ∀ text gates, readGates text = .ok gates →
      readGates (writeGates gates) = .ok gates ∧
      ∀ again, readGates (writeGates gates) = .ok again → writeGates again = writeGates gates := by
  refine ⟨fun gates some => readPieces_writeGates some, ⟨rfl, rfl⟩, ?_⟩
  intro text gates accepted
  have canonical : readGates (writeGates gates) = .ok gates :=
    readPieces_writeGates (ne_nil_of_readPieces accepted)
  refine ⟨canonical, ?_⟩
  intro again finished
  rw [canonical] at finished
  rw [Except.ok.inj finished]

/-- The greatest and the least angle, and a text with white space, a sign and leading zeros. -/
theorem readGates_writeGates_of_extremes :
    let gates : List Gate := [.z 9223372036854775807, .x (-9223372036854775808), .y 0]
    let text := " X(+0090) ,	Y(-0)"
    gates ≠ [] ∧ readGates (writeGates gates) = .ok gates ∧
    readGates text = .ok [.x 90, .y 0] ∧ readGates (writeGates [.x 90, .y 0]) = .ok [.x 90, .y 0] := by
  intro gates text
  have some : gates ≠ [] := by decide
  have accepted : readGates text = .ok [.x 90, .y 0] := by decide +kernel
  exact ⟨some, readGates_writeGates.1 gates some, accepted,
    (readGates_writeGates.2.2 text _ accepted).1⟩

end QubitRotation.Notation
