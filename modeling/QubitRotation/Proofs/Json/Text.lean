import QubitRotation.Json.Text
import QubitRotation.Json.Value

/-!
# Strings of JSON and their characters

A character may be spelled in several ways (`Spelling`), each of which is read as that character
(`readText_spelling`), so a string is read whichever spellings it is made of (`readText_spells`).
What is written for a character is one of its spellings (`spelling_escape`).

A string that is passed over may also hold half of a pair on its own, which spells no character
(`Fragment`, `skipText_fragment`).
-/

namespace QubitRotation.Json

/-- How a character may be spelled in a string: as it is, by a letter behind a backslash, by its
number, or by the numbers of its two halves. -/
inductive Spelling (c : Char) : List Char → Prop
  | plain : ' ' ≤ c → c ≠ '"' → c ≠ '\\' → Spelling c [c]
  | letter {letter : Char} : ofLetter? letter = some c → Spelling c ['\\', letter]
  | number {x₁ x₂ x₃ x₄ : Char} : codeUnit? x₁ x₂ x₃ x₄ = some c.toNat →
      Spelling c ['\\', 'u', x₁, x₂, x₃, x₄]
  | halves {x₁ x₂ x₃ x₄ y₁ y₂ y₃ y₄ : Char} {high low : Nat} :
      codeUnit? x₁ x₂ x₃ x₄ = some high → isHighHalf high = true →
      codeUnit? y₁ y₂ y₃ y₄ = some low → isLowHalf low = true → ofHalves high low = c →
      Spelling c ['\\', 'u', x₁, x₂, x₃, x₄, '\\', 'u', y₁, y₂, y₃, y₄]

/-- What stands between the quotes of a string, and the text that it spells. -/
inductive Spells : List Char → List Char → Prop
  | nil : Spells [] []
  | cons {c : Char} {part written text : List Char} : Spelling c part → Spells written text →
      Spells (part ++ written) (c :: text)

/-- A part of any string: the spelling of a character, or the number of a code unit, which may be
half of a pair. -/
inductive Fragment : List Char → Prop
  | spelling {c : Char} {part : List Char} : Spelling c part → Fragment part
  | unit {x₁ x₂ x₃ x₄ : Char} {unit : Nat} : codeUnit? x₁ x₂ x₃ x₄ = some unit →
      Fragment ['\\', 'u', x₁, x₂, x₃, x₄]

/-! ## Reading -/

theorem readText_plain {c : Char} (plain : ' ' ≤ c) (noQuote : c ≠ '"') (noBackslash : c ≠ '\\')
    (rest : List Char) : readText (c :: rest) = prepend c (readText rest) := by
  rw [readText]
  · simp [noBackslash, Char.not_lt.mpr plain]
  · simp [noQuote]
  · simp [noBackslash]
  · simp [noBackslash]

theorem ne_u_of_ofLetter? {letter c : Char} (known : ofLetter? letter = some c) :
    letter ≠ 'u' := by
  rintro rfl
  cases known

theorem readText_letter {letter c : Char} (known : ofLetter? letter = some c) (rest : List Char) :
    readText ('\\' :: letter :: rest) = prepend c (readText rest) := by
  rw [readText]
  · rw [known]
  · exact fun _ _ _ _ _ number => absurd number (ne_u_of_ofLetter? known)

/-- No character is half of a pair. -/
theorem not_half (c : Char) : isLowHalf c.toNat = false ∧ isHighHalf c.toNat = false := by
  have valid : c.toNat < 0xD800 ∨ 0xDFFF < c.toNat ∧ c.toNat < 0x110000 := c.valid
  simp only [isLowHalf, isHighHalf, Bool.and_eq_false_imp, decide_eq_true_eq,
    decide_eq_false_iff_not]
  omega

theorem not_lowHalf_of_highHalf {unit : Nat} (high : isHighHalf unit = true) :
    isLowHalf unit = false := by
  simp only [isHighHalf, isLowHalf, Bool.and_eq_true, Bool.and_eq_false_imp, decide_eq_true_eq,
    decide_eq_false_iff_not] at high ⊢
  omega

/-- Every spelling of a character is read as that character. -/
theorem readText_spelling {c : Char} {part : List Char} (spelling : Spelling c part)
    (rest : List Char) : readText (part ++ rest) = prepend c (readText rest) := by
  cases spelling with
  | plain plain noQuote noBackslash => exact readText_plain plain noQuote noBackslash rest
  | letter known => exact readText_letter known rest
  | number known =>
      obtain ⟨notLow, notHigh⟩ := not_half c
      simp [readText, known, notLow, notHigh]
  | halves highKnown high lowKnown low made =>
      simp [readText, highKnown, high, not_lowHalf_of_highHalf high, lowKnown, low, made]

/-- A string is read from behind its opening quote, whatever follows it. -/
theorem readText_spells {written text : List Char} (spells : Spells written text)
    (rest : List Char) : readText (written ++ '"' :: rest) = some (text, rest) := by
  induction spells with
  | nil => rfl
  | cons spelling _ ih =>
      rw [List.append_assoc, readText_spelling spelling, ih]
      rfl

/-! ## Passing over -/

theorem skipText_plain {c : Char} (plain : ' ' ≤ c) (noQuote : c ≠ '"') (noBackslash : c ≠ '\\')
    (rest : List Char) : skipText (c :: rest) = skipText rest := by
  rw [skipText]
  · simp [noBackslash, Char.not_lt.mpr plain]
  · simp [noQuote]
  · simp [noBackslash]
  · simp [noBackslash]

theorem skipText_letter {letter c : Char} (known : ofLetter? letter = some c) (rest : List Char) :
    skipText ('\\' :: letter :: rest) = skipText rest := by
  rw [skipText]
  · rw [known]
    rfl
  · exact fun _ _ _ _ _ number => absurd number (ne_u_of_ofLetter? known)

theorem skipText_unit {x₁ x₂ x₃ x₄ : Char} {unit : Nat}
    (known : codeUnit? x₁ x₂ x₃ x₄ = some unit) (rest : List Char) :
    skipText ('\\' :: 'u' :: x₁ :: x₂ :: x₃ :: x₄ :: rest) = skipText rest := by
  rw [skipText, known]
  rfl

theorem skipText_fragment {part : List Char} (fragment : Fragment part) (rest : List Char) :
    skipText (part ++ rest) = skipText rest := by
  cases fragment with
  | unit known => exact skipText_unit known rest
  | spelling spelling =>
      cases spelling with
      | plain plain noQuote noBackslash => exact skipText_plain plain noQuote noBackslash rest
      | letter known => exact skipText_letter known rest
      | number known => exact skipText_unit known rest
      | halves highKnown _ lowKnown =>
          exact (skipText_unit highKnown _).trans (skipText_unit lowKnown rest)

/-- A string is passed over from behind its opening quote, halves of pairs included. -/
theorem skipText_fragments {parts : List (List Char)} (fragments : ∀ part ∈ parts, Fragment part)
    (rest : List Char) : skipText (parts.flatten ++ '"' :: rest) = some rest := by
  induction parts with
  | nil => rfl
  | cons part parts ih =>
      obtain ⟨first, others⟩ := List.forall_mem_cons.mp fragments
      rw [List.flatten_cons, List.append_assoc, skipText_fragment first, ih others]

/-! ## Writing -/

theorem hexDigit?_digitChar : ∀ digit < 16, hexDigit? (Nat.digitChar digit) = some digit := by
  decide

theorem codeUnit?_digitChar {a b c d : Nat} (ha : a < 16) (hb : b < 16) (hc : c < 16)
    (hd : d < 16) :
    codeUnit? (Nat.digitChar a) (Nat.digitChar b) (Nat.digitChar c) (Nat.digitChar d) =
      some (((a * 16 + b) * 16 + c) * 16 + d) := by
  simp [codeUnit?, hexDigit?_digitChar, *]

theorem spelling_fourHexDigits {c : Char} (short : c.toNat < 0x10000) :
    Spelling c ('\\' :: 'u' :: fourHexDigits c.toNat) := by
  refine .number ?_
  rw [codeUnit?_digitChar (by omega) (by omega) (by omega) (by omega)]
  congr 1
  omega

/-- What is written for a character is one of its spellings. -/
theorem spelling_escape (c : Char) : Spelling c (escape c) := by
  unfold escape
  split
  case h_8 noQuote noBackslash _ _ _ _ _ =>
    split
    next control =>
      have below : c.toNat < ' '.toNat := control
      exact spelling_fourHexDigits (Nat.lt_trans below (by decide))
    next plain => exact .plain (Char.not_lt.mp plain) noQuote noBackslash
  all_goals exact .letter rfl

theorem spells_escape (text : List Char) : Spells (text.flatMap escape) text := by
  induction text with
  | nil => exact .nil
  | cons c text ih => exact .cons (spelling_escape c) ih

end QubitRotation.Json
