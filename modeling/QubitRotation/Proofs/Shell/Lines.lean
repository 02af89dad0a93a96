import Mathlib.Data.List.Basic
import QubitRotation.Shell.Session

/-!
# The lines of a text

An input is a sequence of bytes, and it is split into lines before it is decoded. For the encoding
of a text this comes to the same as splitting the text: no character but the line feed has the byte
of the line feed in its encoding (`linesOf_toUTF8`). So every line of a text can be decoded.
-/

namespace QubitRotation.Shell

variable {α β : Type}

/-- Puts something in front of the first line, or makes it the only one. -/
def extendFirst (front : List α) : List (List α) → List (List α)
  | [] => [front]
  | line :: lines => (front ++ line) :: lines

/-- The lines of a text, each with the line feed that ends it; the last one may lack it. -/
def textLines : List Char → List (List Char)
  | [] => []
  | c :: rest => if c = '\n' then [c] :: textLines rest else extendFirst [c] (textLines rest)

theorem extendFirst_append (front more : List α) (lines : List (List α)) :
    extendFirst (front ++ more) lines = extendFirst front (extendFirst more lines) := by
  cases lines with
  | nil => rfl
  | cons line lines => rw [extendFirst, extendFirst, extendFirst, List.append_assoc]

theorem map_extendFirst (encode : α → List β) (front : List α) (lines : List (List α)) :
    (extendFirst front lines).map (·.flatMap encode) =
      extendFirst (front.flatMap encode) (lines.map (·.flatMap encode)) := by
  cases lines with
  | nil => rfl
  | cons line lines => simp [extendFirst]

/-! ## Bytes -/

theorem splitLines_cons {byte : UInt8} (other : byte ≠ 10) (rest : List UInt8) :
    splitLines (byte :: rest) = extendFirst [byte] (splitLines rest) := by
  rw [splitLines, if_neg other]
  cases splitLines rest <;> rfl

/-- Bytes that do not end a line belong to the line that follows them. -/
theorem splitLines_append {front : List UInt8} (some : front ≠ [])
    (plain : ∀ byte ∈ front, byte ≠ 10) (rest : List UInt8) :
    splitLines (front ++ rest) = extendFirst front (splitLines rest) := by
  induction front with
  | nil => exact absurd rfl some
  | cons byte front ih =>
      obtain ⟨other, plain⟩ := List.forall_mem_cons.mp plain
      rw [List.cons_append, splitLines_cons other]
      by_cases last : front = []
      · rw [last, List.nil_append]
      · rw [ih last plain, ← extendFirst_append]
        rfl

/-- A line that ends with a line feed and has no other. -/
def Terminated (line : List UInt8) : Prop :=
  ∃ body, (∀ byte ∈ body, byte ≠ 10) ∧ line = body ++ [10]

theorem splitLines_terminated {line : List UInt8} (ended : Terminated line) (rest : List UInt8) :
    splitLines (line ++ rest) = line :: splitLines rest := by
  obtain ⟨body, plain, rfl⟩ := ended
  have feed : splitLines (10 :: rest) = [10] :: splitLines rest := if_pos rfl
  rw [List.append_assoc, List.singleton_append]
  by_cases empty : body = []
  · rw [empty]
    exact feed
  · rw [splitLines_append empty plain, feed]
    rfl

/-- Terminated lines put together are split into the same lines again. -/
theorem splitLines_flatten {lines : List (List UInt8)} (ended : ∀ line ∈ lines, Terminated line) :
    splitLines lines.flatten = lines := by
  induction lines with
  | nil => rfl
  | cons line lines ih =>
      obtain ⟨first, others⟩ := List.forall_mem_cons.mp ended
      rw [List.flatten_cons, splitLines_terminated first, ih others]

/-- Only the line feed has its byte in its encoding: a byte of a longer encoding has its high bit
set. -/
theorem utf8EncodeChar_ne_feed {c : Char} (other : c ≠ '\n') :
    ∀ byte ∈ String.utf8EncodeChar c, byte ≠ 10 := by
  have code : c.val.toNat ≠ 10 := by
    intro same
    exact other (Char.ext (UInt32.toNat_inj.mp same))
  have differs {n : Nat} (below : n < 256) (differ : n ≠ 10) : UInt8.ofNat n ≠ 10 := by
    intro same
    have equal := congrArg UInt8.toNat same
    rw [UInt8.toNat_ofNat_of_lt' below] at equal
    exact differ equal
  unfold String.utf8EncodeChar
  dsimp only
  split_ifs
  case pos single =>
    exact List.forall_mem_singleton.mpr (differs (Nat.lt_of_le_of_lt single (by decide)) code)
  all_goals
    simp only [List.forall_mem_cons, List.not_mem_nil, false_implies, implies_true, and_true]
    and_intros
    all_goals exact differs (by omega) (by omega)

/-- So the encoding of a line of text is a line of bytes. -/
theorem terminated_flatMap {body : List Char} (plain : '\n' ∉ body) :
    Terminated ((body ++ ['\n']).flatMap String.utf8EncodeChar) := by
  refine ⟨body.flatMap String.utf8EncodeChar, ?_, List.flatMap_append⟩
  intro byte member
  obtain ⟨c, inside, encoded⟩ := List.mem_flatMap.mp member
  have other : c ≠ '\n' := by
    rintro rfl
    exact plain inside
  exact utf8EncodeChar_ne_feed other byte encoded

theorem splitLines_flatMap (text : List Char) :
    splitLines (text.flatMap String.utf8EncodeChar) =
      (textLines text).map (·.flatMap String.utf8EncodeChar) := by
  induction text with
  | nil => rfl
  | cons c text ih =>
      rw [List.flatMap_cons, textLines]
      split
      next feed =>
        rw [feed, List.map_cons, ← ih]
        rfl
      next other =>
        rw [splitLines_append String.utf8EncodeChar_ne_nil (utf8EncodeChar_ne_feed other), ih,
          map_extendFirst, List.flatMap_singleton]

/-- A line that has been decoded. -/
def Line.ofText (line : List Char) : Line := .text (String.ofList line)

theorem ofBytes_flatMap (line : List Char) :
    Line.ofBytes (line.flatMap String.utf8EncodeChar) = .ofText line := by
  have encoded : ByteArray.mk (line.flatMap String.utf8EncodeChar).toArray = line.utf8Encode :=
    ByteArray.ext List.data_toByteArray.symm
  have valid : line.utf8Encode.IsValidUTF8 := ByteArray.isValidUTF8_utf8Encode
  have decoded : String.fromUTF8 line.utf8Encode valid = String.ofList line :=
    String.toByteArray_inj.mp String.toByteArray_ofList.symm
  rw [Line.ofBytes, encoded, String.fromUTF8?, dif_pos valid, decoded, Line.ofText]

/-- The lines of an encoded text are the lines of the text. -/
theorem linesOf_toUTF8 (text : String) :
    linesOf text.toUTF8.data.toList = (textLines text.toList).map .ofText := by
  have bytes : text.toUTF8.data.toList = text.toList.flatMap String.utf8EncodeChar := by
    have encoded : text.toUTF8 = text.toList.utf8Encode := by
      rw [String.toUTF8_eq_toByteArray, ← String.toByteArray_ofList, String.ofList_toList]
    rw [encoded, List.utf8Encode, List.toList_data_toByteArray]
  rw [linesOf, bytes, splitLines_flatMap, List.map_map]
  exact List.map_congr_left fun line _ => ofBytes_flatMap line

end QubitRotation.Shell
