import QubitRotation.Numeral
import QubitRotation.Proofs.Results

/-!
# What numerals spell

`Spells text value` says what a numeral is and which integer it stands for, without reading it:
an optional sign and at least one ASCII digit. Reading from left to right refuses a prefix as
soon as it leaves the range, and no digit ever leads back into it (`le_ofDigitChars`), so a numeral
is read if and only if it is one and its value lies in the range (`Range.read_eq_ok_iff`).
-/

namespace QubitRotation.Numeral

/-- ASCII digits, of which there is at least one. -/
def Digits (text : List Char) : Prop := text ≠ [] ∧ ∀ c ∈ text, c.isDigit = true

/-- The number that digits stand for. -/
def digitsValue (digits : List Char) : Nat := Nat.ofDigitChars 10 digits 0

/-- A numeral and the integer that it stands for. -/
inductive Spells : List Char → Int → Prop
  | unsigned {digits : List Char} (proper : Digits digits) : Spells digits (digitsValue digits)
  | plus {digits : List Char} (proper : Digits digits) :
      Spells ('+' :: digits) (digitsValue digits)
  | minus {digits : List Char} (proper : Digits digits) :
      Spells ('-' :: digits) (-digitsValue digits)

/-! ## Digits -/

theorem isDigit_iff {c : Char} : c.isDigit = true ↔ '0' ≤ c ∧ c ≤ '9' := by
  simp only [Char.isDigit, Bool.and_eq_true, decide_eq_true_eq]
  exact Iff.rfl

theorem digit?_eq_some_iff {c : Char} {digit : Nat} :
    digit? c = some digit ↔ c.isDigit = true ∧ digit = c.toNat - '0'.toNat := by
  rw [digit?, isDigit_iff]
  split
  next proper => simp [proper, eq_comm]
  next improper => simp [improper]

theorem digit?_eq_none_iff {c : Char} : digit? c = none ↔ ¬c.isDigit = true := by
  rw [digit?, isDigit_iff]
  split
  next proper => simp [proper]
  next improper => simp [improper]

theorem not_digits_cons {c : Char} {digits : List Char} (other : ¬c.isDigit = true) :
    ¬Digits (c :: digits) := by
  intro proper
  exact other (proper.2 c (by simp))

/-- More digits never make a number smaller. -/
theorem le_ofDigitChars (digits : List Char) (start : Nat) :
    start ≤ Nat.ofDigitChars 10 digits start := by
  induction digits generalizing start with
  | nil => exact Nat.le_refl start
  | cons c digits ih =>
      rw [Nat.ofDigitChars_cons]
      have longer := ih (10 * start + (c.toNat - '0'.toNat))
      omega

theorem digits_toDigits (n : Nat) : Digits (Nat.toDigits 10 n) := by
  refine ⟨Nat.toDigits_ne_nil, ?_⟩
  intro c member
  exact Nat.isDigit_of_mem_toDigits (by decide) (by decide) member

@[simp] theorem digitsValue_toDigits (n : Nat) : digitsValue (Nat.toDigits 10 n) = n :=
  Nat.ofDigitChars_ten_toDigits

/-! ## Signs -/

/-- A magnitude with its sign. -/
def withSign (negative : Bool) (magnitude : Nat) : Int :=
  if negative then -magnitude else magnitude

@[simp] theorem withSign_true (magnitude : Nat) : withSign true magnitude = -magnitude := rfl

@[simp] theorem withSign_false (magnitude : Nat) : withSign false magnitude = magnitude := rfl

theorem Spells.ne_nil {text : List Char} {value : Int} (spells : Spells text value) :
    text ≠ [] := by
  cases spells with
  | unsigned proper => exact proper.1
  | plus => exact List.cons_ne_nil _ _
  | minus => exact List.cons_ne_nil _ _

theorem spells_plus_iff {digits : List Char} {value : Int} :
    Spells ('+' :: digits) value ↔ Digits digits ∧ value = withSign false (digitsValue digits) := by
  constructor
  · intro spells
    cases spells with
    | unsigned proper => exact absurd proper (not_digits_cons (by decide))
    | plus proper => exact ⟨proper, rfl⟩
  · rintro ⟨proper, rfl⟩
    exact .plus proper

theorem spells_minus_iff {digits : List Char} {value : Int} :
    Spells ('-' :: digits) value ↔ Digits digits ∧ value = withSign true (digitsValue digits) := by
  constructor
  · intro spells
    cases spells with
    | unsigned proper => exact absurd proper (not_digits_cons (by decide))
    | minus proper => exact ⟨proper, rfl⟩
  · rintro ⟨proper, rfl⟩
    exact .minus proper

theorem spells_unsigned_iff {text : List Char} {value : Int} (noPlus : text.head? ≠ some '+')
    (noMinus : text.head? ≠ some '-') :
    Spells text value ↔ Digits text ∧ value = withSign false (digitsValue text) := by
  constructor
  · intro spells
    cases spells with
    | unsigned proper => exact ⟨proper, rfl⟩
    | plus proper => exact absurd rfl noPlus
    | minus proper => exact absurd rfl noMinus
  · rintro ⟨proper, rfl⟩
    exact .unsigned proper

/-- A numeral holds digits and signs and nothing else. -/
theorem Spells.forall_mem {text : List Char} {value : Int} (spells : Spells text value) :
    ∀ c ∈ text, c.isDigit = true ∨ c = '+' ∨ c = '-' := by
  intro c member
  cases spells with
  | unsigned proper => exact .inl (proper.2 c member)
  | plus proper =>
      obtain rfl | member := List.mem_cons.mp member
      · exact .inr (.inl rfl)
      · exact .inl (proper.2 c member)
  | minus proper =>
      obtain rfl | member := List.mem_cons.mp member
      · exact .inr (.inr rfl)
      · exact .inl (proper.2 c member)

/-- Integers are written as numerals, with a sign only if it is a minus. -/
theorem toList_toString (value : Int) :
    (toString value).toList =
      if 0 ≤ value then Nat.toDigits 10 value.natAbs else '-' :: Nat.toDigits 10 value.natAbs := by
  change value.repr.toList = _
  rw [Int.repr_eq_if]
  split
  next nonneg =>
    have magnitude : value.toNat = value.natAbs := by omega
    rw [Nat.repr_eq_ofList_toDigits, String.toList_ofList, magnitude]
  next negative =>
    have magnitude : (-value).toNat = value.natAbs := by omega
    rw [Nat.repr_eq_ofList_toDigits, magnitude, String.toList_append, String.toList_ofList]
    simp

theorem spells_toString (value : Int) : Spells (toString value).toList value := by
  have proper := digits_toDigits value.natAbs
  rw [toList_toString]
  split
  next nonneg =>
    have spells := Spells.unsigned proper
    rwa [digitsValue_toDigits, Int.natAbs_of_nonneg nonneg] at spells
  next negative =>
    have spells := Spells.minus proper
    rwa [digitsValue_toDigits, Int.ofNat_natAbs_of_nonpos (by omega), Int.neg_neg] at spells

/-! ## Reading -/

namespace Range

/-- Whether a range has a number. -/
structure Contains (range : Range) (value : Int) : Prop where
  low : range.least ≤ value
  high : value ≤ range.greatest

variable {range : Range} {negative : Bool} {value : Int}

theorem contains_of_le (zero : range.Contains 0) {magnitude larger : Nat} (le : magnitude ≤ larger)
    (contains : range.Contains (withSign negative larger)) :
    range.Contains (withSign negative magnitude) := by
  obtain ⟨low, high⟩ := contains
  obtain ⟨least, greatest⟩ := zero
  cases negative with
  | false =>
      rw [withSign_false] at *
      exact ⟨by omega, by omega⟩
  | true =>
      rw [withSign_true] at *
      exact ⟨by omega, by omega⟩

/-- One more digit is refused if and only if it leads out of the range. -/
theorem advance_eq_ok_iff (zero : range.Contains 0) {magnitude digit : Nat} :
    range.advance negative (withSign negative magnitude) digit = .ok value ↔
      range.Contains value ∧ value = withSign negative (10 * magnitude + digit) := by
  obtain ⟨least, greatest⟩ := zero
  cases negative with
  | false =>
      have next : (magnitude : Int) * 10 + digit = ((10 * magnitude + digit : Nat) : Int) := by
        omega
      rw [advance, if_neg Bool.false_ne_true, withSign_false, withSign_false, next]
      split
      next within =>
        constructor
        · rintro ⟨rfl⟩
          exact ⟨⟨by omega, within⟩, rfl⟩
        · rintro ⟨_, rfl⟩
          rfl
      next beyond =>
        refine ⟨nofun, ?_⟩
        rintro ⟨⟨_, high⟩, rfl⟩
        exact absurd high beyond
  | true =>
      have next : -(magnitude : Int) * 10 - digit = -((10 * magnitude + digit : Nat) : Int) := by
        omega
      rw [advance, if_pos rfl, withSign_true, withSign_true, next]
      split
      next within =>
        constructor
        · rintro ⟨rfl⟩
          exact ⟨⟨within, by omega⟩, rfl⟩
        · rintro ⟨_, rfl⟩
          rfl
      next beyond =>
        refine ⟨nofun, ?_⟩
        rintro ⟨⟨low, _⟩, rfl⟩
        exact absurd low beyond

/-- Induction on the digits, from any number in the range that earlier digits led to. -/
theorem readDigits_eq_ok_iff (zero : range.Contains 0) {digits : List Char} {magnitude : Nat}
    (reached : range.Contains (withSign negative magnitude)) :
    range.readDigits negative (withSign negative magnitude) digits = .ok value ↔
      (∀ c ∈ digits, c.isDigit = true) ∧ range.Contains value ∧
        value = withSign negative (Nat.ofDigitChars 10 digits magnitude) := by
  induction digits generalizing magnitude with
  | nil =>
      rw [readDigits, Nat.ofDigitChars_nil]
      constructor
      · rintro ⟨rfl⟩
        exact ⟨nofun, reached, rfl⟩
      · rintro ⟨_, _, rfl⟩
        rfl
  | cons c digits ih =>
      rw [readDigits, List.forall_mem_cons, Nat.ofDigitChars_cons]
      cases known : digit? c with
      | none =>
          have other := digit?_eq_none_iff.mp known
          exact ⟨nofun, fun proper => absurd proper.1.1 other⟩
      | some digit =>
          obtain ⟨proper, rfl⟩ := digit?_eq_some_iff.mp known
          dsimp only
          cases advanced :
              range.advance negative (withSign negative magnitude) (c.toNat - '0'.toNat) with
          | error fault =>
              -- If the digits after this one led back into the range, this one would not leave it.
              refine ⟨nofun, ?_⟩
              rintro ⟨_, contains, rfl⟩
              have within := contains_of_le zero (le_ofDigitChars digits _) contains
              rw [(advance_eq_ok_iff zero).mpr ⟨within, rfl⟩] at advanced
              cases advanced
          | ok next =>
              obtain ⟨within, rfl⟩ := (advance_eq_ok_iff zero).mp advanced
              simp only [ih within, proper, true_and]

theorem readUnsigned_eq_ok_iff (zero : range.Contains 0) {digits : List Char} :
    range.readUnsigned negative digits = .ok value ↔
      Digits digits ∧ range.Contains value ∧ value = withSign negative (digitsValue digits) := by
  have start : withSign negative 0 = 0 := by cases negative <;> rfl
  have reached : range.Contains (withSign negative 0) := start.symm ▸ zero
  unfold readUnsigned Digits digitsValue
  split
  next none => simp_all
  next some =>
    rw [← start, readDigits_eq_ok_iff zero reached]
    simp_all

/-- The whole numeral. A range without negative numbers knows no minus sign, not even that of
zero. -/
theorem read_eq_ok_iff (zero : range.Contains 0) {text : List Char} :
    range.read text = .ok value ↔
      Spells text value ∧ range.Contains value ∧ (text.head? = some '-' → range.least < 0) := by
  unfold read
  split
  next => exact ⟨nofun, fun spells => absurd rfl spells.1.ne_nil⟩
  next digits =>
    rw [readUnsigned_eq_ok_iff zero, spells_plus_iff]
    simp [and_comm, and_assoc]
  next digits =>
    rw [spells_minus_iff]
    split
    next allowed =>
      rw [readUnsigned_eq_ok_iff zero]
      simp [allowed, and_comm, and_assoc]
    next refused => simp [refused]
  next filled noPlus noMinus =>
    have whole : range.readDigits false 0 text = range.readUnsigned false text := by
      cases text with
      | nil => exact absurd rfl filled
      | cons => rfl
    have noPlusHead : text.head? ≠ some '+' := by
      intro head
      obtain ⟨digits, rfl⟩ := List.head?_eq_some_iff.mp head
      exact noPlus digits rfl
    have noMinusHead : text.head? ≠ some '-' := by
      intro head
      obtain ⟨digits, rfl⟩ := List.head?_eq_some_iff.mp head
      exact noMinus digits rfl
    rw [whole, readUnsigned_eq_ok_iff zero, spells_unsigned_iff noPlusHead noMinusHead]
    simp [noMinusHead, and_comm, and_assoc]

end Range

/-! ## Words -/

theorem signed_contains_iff {value : Int} :
    Range.signed.Contains value ↔ ∃ word : Int64, word.toInt = value := by
  constructor
  · rintro ⟨low, high⟩
    exact ⟨Int64.ofInt value, Int64.toInt_ofInt_of_le low (Int.lt_add_one_of_le high)⟩
  · rintro ⟨word, rfl⟩
    exact ⟨word.minValue_le_toInt, word.toInt_le⟩

theorem unsigned_contains_iff {value : Int} :
    Range.unsigned.Contains value ↔ ∃ word : UInt64, (word.toNat : Int) = value := by
  constructor
  · rintro ⟨low, high⟩
    change 0 ≤ value at low
    change value ≤ UInt64.size - 1 at high
    refine ⟨UInt64.ofNat value.toNat, ?_⟩
    rw [UInt64.toNat_ofNat_of_lt' (by omega), Int.toNat_of_nonneg low]
  · rintro ⟨word, rfl⟩
    exact ⟨Int.natCast_nonneg _, Int.le_sub_one_of_lt (by exact_mod_cast word.toNat_lt_size)⟩

theorem readInt64_eq_ok_iff {text : List Char} {word : Int64} :
    readInt64 text = .ok word ↔ Spells text word.toInt := by
  have zero : Range.signed.Contains 0 := signed_contains_iff.mpr ⟨0, rfl⟩
  rw [readInt64, Except.map_eq_ok_iff]
  constructor
  · rintro ⟨value, whole, rfl⟩
    obtain ⟨spells, contains, _⟩ := (Range.read_eq_ok_iff zero).mp whole
    obtain ⟨word, rfl⟩ := signed_contains_iff.mp contains
    rwa [Int64.ofInt_toInt]
  · intro spells
    have contains := signed_contains_iff.mpr ⟨word, rfl⟩
    exact ⟨word.toInt, (Range.read_eq_ok_iff zero).mpr ⟨spells, contains, fun _ => by decide⟩,
      Int64.ofInt_toInt word⟩

theorem readUInt64_eq_ok_iff {text : List Char} {word : UInt64} :
    readUInt64 text = .ok word ↔ Spells text word.toNat ∧ text.head? ≠ some '-' := by
  have zero : Range.unsigned.Contains 0 := unsigned_contains_iff.mpr ⟨0, rfl⟩
  rw [readUInt64, Except.map_eq_ok_iff]
  constructor
  · rintro ⟨value, whole, rfl⟩
    obtain ⟨spells, contains, noMinus⟩ := (Range.read_eq_ok_iff zero).mp whole
    obtain ⟨word, rfl⟩ := unsigned_contains_iff.mp contains
    rw [Int.toNat_natCast, UInt64.ofNat_toNat]
    exact ⟨spells, fun minus => absurd (noMinus minus) (by decide)⟩
  · rintro ⟨spells, noMinus⟩
    have contains := unsigned_contains_iff.mpr ⟨word, rfl⟩
    refine ⟨word.toNat, (Range.read_eq_ok_iff zero).mpr ⟨spells, contains, ?_⟩, ?_⟩
    · intro minus
      exact absurd minus noMinus
    · rw [Int.toNat_natCast, UInt64.ofNat_toNat]

end QubitRotation.Numeral
