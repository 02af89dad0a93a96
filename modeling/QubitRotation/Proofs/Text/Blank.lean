import Mathlib.Data.List.TakeWhile
import QubitRotation.Proofs.Lists
import QubitRotation.Text.Blank

/-!
# What trimming leaves

Trimming takes white space off both ends and nothing else, and it stops at the first character of
either end that is not white space. Both together determine the result (`trim_eq_iff`).
-/

namespace QubitRotation.Text

/-- White space and nothing else. -/
def Blank (text : List Char) : Prop := ∀ c ∈ text, isBlank c = true

instance (text : List Char) : Decidable (Blank text) :=
  decidable_of_iff (text.all isBlank = true) List.all_eq_true

/-- A text with no white space at either end. -/
structure Trimmed (text : List Char) : Prop where
  front : ∀ c ∈ text.head?, isBlank c = false
  back : ∀ c ∈ text.getLast?, isBlank c = false

theorem blank_reverse {text : List Char} : Blank text.reverse ↔ Blank text := by
  simp [Blank]

theorem blank_append_iff {first second : List Char} :
    Blank (first ++ second) ↔ Blank first ∧ Blank second :=
  List.forall_mem_append

theorem blank_takeWhile (text : List Char) : Blank (text.takeWhile isBlank) := by
  intro c member
  exact List.mem_takeWhile_imp member

theorem head?_dropWhile_blank {text : List Char} :
    ∀ c ∈ (text.dropWhile isBlank).head?, isBlank c = false := by
  intro c head
  have other := List.head?_dropWhile_not isBlank text
  rw [Option.mem_def.mp head] at other
  exact other

theorem trimEnd_append {text after : List Char} (blank : Blank after)
    (back : ∀ c ∈ text.getLast?, isBlank c = false) : trimEnd (text ++ after) = text := by
  rw [trimEnd, List.reverse_append, List.dropWhile_append_of_head? (blank_reverse.mpr blank),
    List.reverse_reverse]
  rwa [List.head?_reverse]

theorem exists_trimEnd (text : List Char) :
    ∃ after, text = trimEnd text ++ after ∧ Blank after := by
  refine ⟨(text.reverse.takeWhile isBlank).reverse, ?_, blank_reverse.mpr (blank_takeWhile _)⟩
  rw [trimEnd, ← List.reverse_append, List.takeWhile_append_dropWhile, List.reverse_reverse]

theorem getLast?_trimEnd {text : List Char} :
    ∀ c ∈ (trimEnd text).getLast?, isBlank c = false := by
  rw [trimEnd, List.getLast?_reverse]
  exact head?_dropWhile_blank

/-- Trimming gives a text without white space at its ends, and only white space is gone. -/
theorem trim_eq_iff {text token : List Char} :
    trim text = token ↔ Trimmed token ∧
      ∃ before after, text = before ++ token ++ after ∧ Blank before ∧ Blank after := by
  constructor
  · rintro rfl
    obtain ⟨after, split, blank⟩ := exists_trimEnd (text.dropWhile isBlank)
    refine ⟨⟨?_, getLast?_trimEnd⟩, text.takeWhile isBlank, after, ?_, blank_takeWhile text, blank⟩
    · intro c head
      apply head?_dropWhile_blank c
      rw [split]
      exact List.mem_head?_append_of_mem_head? head
    · rw [List.append_assoc, trim, ← split, List.takeWhile_append_dropWhile]
  · rintro ⟨⟨front, back⟩, before, after, rfl, blankBefore, blankAfter⟩
    cases token with
    | nil =>
        rw [List.append_nil, trim,
          List.dropWhile_eq_nil_iff.mpr (blank_append_iff.mpr ⟨blankBefore, blankAfter⟩)]
        rfl
    | cons c token =>
        have first : ∀ d ∈ (c :: token ++ after).head?, isBlank d = false := front
        rw [List.append_assoc, trim, List.dropWhile_append_of_head? blankBefore first,
          trimEnd_append blankAfter back]

/-- Only white space is taken off a text. -/
theorem exists_eq_trim (text : List Char) :
    ∃ before after, text = before ++ trim text ++ after ∧ Blank before ∧ Blank after :=
  (trim_eq_iff.mp (Eq.refl (trim text))).2

theorem length_trim_le (text : List Char) : (trim text).length ≤ text.length := by
  obtain ⟨before, after, split, _⟩ := exists_eq_trim text
  have lengths := congrArg List.length split
  simp only [List.length_append] at lengths
  omega

theorem trim_eq_nil_iff {text : List Char} : trim text = [] ↔ Blank text := by
  rw [trim_eq_iff]
  constructor
  · rintro ⟨_, before, after, rfl, blankBefore, blankAfter⟩
    rw [List.append_nil, blank_append_iff]
    exact ⟨blankBefore, blankAfter⟩
  · intro blank
    exact ⟨⟨nofun, nofun⟩, text, [], by simp, blank, nofun⟩

end QubitRotation.Text
