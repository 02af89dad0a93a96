import QubitRotation.Json.Number
import QubitRotation.Proofs.Lists
import QubitRotation.Proofs.Numeral

/-!
# Numbers of JSON

A number is an optional minus sign, whole digits without a zero in front of others, and perhaps a
fraction and an exponent (`Written`). It is scanned as a whole in front of anything that does not
continue it (`Written.scan`).

The spelling of an integer (`Literal.ofInt`) has no fraction and no exponent. Its value is an
integer as long as it fits in 64 bits, signed or unsigned (`value?_ofInt`).
-/

namespace QubitRotation.Json.Literal

open Numeral (Digits)

/-- What may follow a number without becoming part of it. -/
def Ends (rest : List Char) : Prop :=
  ∀ c ∈ rest.head?, c.isDigit = false ∧ c ≠ '.' ∧ c ≠ 'e' ∧ c ≠ 'E'

/-- The sign of an exponent, which may be left out if it is positive. -/
inductive Sign : (negative : Bool) → List Char → Prop
  | absent : Sign false []
  | plus : Sign false ['+']
  | minus : Sign true ['-']

/-- Nothing, or the digits of a fraction behind a point. -/
inductive Fraction : (digits : List Char) → List Char → Prop
  | absent : Fraction [] []
  | present {digits : List Char} : Digits digits → Fraction digits ('.' :: digits)

/-- Nothing, or a mark with the sign and the digits of an exponent. -/
inductive Exponent : Option (Bool × List Char) → List Char → Prop
  | absent : Exponent none []
  | present {mark : Char} {negative : Bool} {sign digits : List Char} :
      mark = 'e' ∨ mark = 'E' → Sign negative sign → Digits digits →
      Exponent (some (negative, digits)) (mark :: (sign ++ digits))

/-- A number behind its sign. Other digits stand in front of a zero or not at all. -/
inductive Magnitude (negative : Bool) : Literal → List Char → Prop
  | intro {whole digits fraction exponent : List Char} {exponent? : Option (Bool × List Char)} :
      Digits whole → (whole.head? = some '0' → whole = ['0']) → Fraction digits fraction →
      Exponent exponent? exponent →
      Magnitude negative ⟨negative, whole, digits, exponent?⟩ (whole ++ (fraction ++ exponent))

/-- A number with its sign. -/
inductive Written : Literal → List Char → Prop
  | unsigned {literal : Literal} {text : List Char} : Magnitude false literal text →
      Written literal text
  | minus {literal : Literal} {text : List Char} : Magnitude true literal text →
      Written literal ('-' :: text)

/-- The spelling of an integer. -/
def ofInt (value : Int) : Literal where
  negative := value < 0
  whole := Nat.toDigits 10 value.natAbs
  fraction := []
  exponent? := none

variable {rest : List Char}

/-! ## Scanning -/

/-- Digits begin with a digit. -/
theorem exists_eq_of_digits {text : List Char} (proper : Digits text) :
    ∃ c others, text = c :: others ∧ c.isDigit = true := by
  obtain ⟨some, digits⟩ := proper
  obtain ⟨c, others, rfl⟩ := List.exists_cons_of_ne_nil some
  exact ⟨c, others, rfl, digits c List.mem_cons_self⟩

theorem scanWhole_digits {whole : List Char} (proper : Digits whole)
    (unpadded : whole.head? = some '0' → whole = ['0'])
    (stop : ∀ c ∈ rest.head?, c.isDigit = false) :
    scanWhole (whole ++ rest) = some (whole, rest) := by
  rw [scanWhole, List.span_append_of_head? proper.2 stop]
  split
  next none =>
    exact absurd (Prod.ext_iff.mp none).1 proper.1
  next padded =>
    obtain ⟨rfl, _⟩ := Prod.ext_iff.mp padded
    cases unpadded rfl
  next => rfl

theorem Fraction.scan {digits fraction : List Char} (written : Fraction digits fraction)
    (stop : ∀ c ∈ rest.head?, c.isDigit = false ∧ c ≠ '.') :
    scanFraction (fraction ++ rest) = some (digits, rest) := by
  cases written with
  | absent =>
      rw [List.nil_append]
      unfold scanFraction
      split
      next => exact absurd rfl (stop _ rfl).2
      next => rfl
  | present proper =>
      rw [List.cons_append, scanFraction,
        List.span_append_of_head? proper.2 fun c first => (stop c first).1]
      split
      next none => exact absurd (Prod.ext_iff.mp none).1 proper.1
      next => rfl

theorem scanExponentDigits_digits (negative : Bool) {digits : List Char} (proper : Digits digits)
    (ends : Ends rest) :
    scanExponentDigits negative (digits ++ rest) = some (some (negative, digits), rest) := by
  rw [scanExponentDigits, List.span_append_of_head? proper.2 fun c first => (ends c first).1]
  split
  next none => exact absurd (Prod.ext_iff.mp none).1 proper.1
  next pair =>
    obtain ⟨rfl, rfl⟩ := Prod.ext_iff.mp pair
    rfl

theorem Exponent.scan {exponent? : Option (Bool × List Char)} {exponent : List Char}
    (written : Exponent exponent? exponent) (ends : Ends rest) :
    scanExponent (exponent ++ rest) = some (exponent?, rest) := by
  cases written with
  | absent =>
      cases rest with
      | nil => rfl
      | cons c rest =>
          obtain ⟨_, _, small, capital⟩ := ends c rfl
          simp [scanExponent, small, capital]
  | @present mark _ _ digits known sign proper =>
      cases sign with
      | plus =>
          change scanExponent (mark :: '+' :: (digits ++ rest)) = _
          rw [scanExponent, if_pos known, scanExponentDigits_digits false proper ends]
      | minus =>
          change scanExponent (mark :: '-' :: (digits ++ rest)) = _
          rw [scanExponent, if_pos known, scanExponentDigits_digits true proper ends]
      | absent =>
          change scanExponent (mark :: (digits ++ rest)) = _
          rw [scanExponent, if_pos known, scanExponentDigits_digits false proper ends]
          all_goals
            -- A digit is no sign.
            intro others signed
            obtain ⟨c, more, rfl, digit⟩ := exists_eq_of_digits proper
            obtain ⟨rfl, _⟩ := List.cons_eq_cons.mp signed
            exact absurd digit (by decide)

/-- An exponent, or what follows the number, continues no fraction. -/
theorem Exponent.stops {exponent? : Option (Bool × List Char)} {exponent : List Char}
    (written : Exponent exponent? exponent) (ends : Ends rest) :
    ∀ c ∈ (exponent ++ rest).head?, c.isDigit = false ∧ c ≠ '.' := by
  cases written with
  | absent => exact fun c first => ⟨(ends c first).1, (ends c first).2.1⟩
  | present mark =>
      rintro _ ⟨⟩
      obtain rfl | rfl := mark <;> decide

/-- A fraction, or what follows it, continues no whole digits. -/
theorem Fraction.stops {digits fraction : List Char} (written : Fraction digits fraction)
    (stop : ∀ c ∈ rest.head?, c.isDigit = false ∧ c ≠ '.') :
    ∀ c ∈ (fraction ++ rest).head?, c.isDigit = false := by
  cases written with
  | absent => exact fun c first => (stop c first).1
  | present =>
      rintro _ ⟨⟩
      decide

theorem Magnitude.scan {negative : Bool} {literal : Literal} {text : List Char}
    (written : Magnitude negative literal text) (ends : Ends rest) :
    scanMagnitude negative (text ++ rest) = some (literal, rest) := by
  obtain ⟨proper, unpadded, fraction, exponent⟩ := written
  rw [List.append_assoc, List.append_assoc, scanMagnitude,
    scanWhole_digits proper unpadded (fraction.stops (exponent.stops ends))]
  simp [fraction.scan (exponent.stops ends), exponent.scan ends]

/-- Without its sign a number begins with a digit. -/
theorem Magnitude.exists_eq {negative : Bool} {literal : Literal} {text : List Char}
    (written : Magnitude negative literal text) :
    ∃ c others, text = c :: others ∧ c.isDigit = true := by
  obtain ⟨proper, _, _, _⟩ := written
  obtain ⟨c, others, rfl, digit⟩ := exists_eq_of_digits proper
  exact ⟨c, _, rfl, digit⟩

theorem Written.exists_eq {literal : Literal} {text : List Char} (written : Written literal text) :
    ∃ c others, text = c :: others ∧ (c.isDigit = true ∨ c = '-') := by
  cases written with
  | unsigned magnitude =>
      obtain ⟨c, others, rfl, digit⟩ := magnitude.exists_eq
      exact ⟨c, others, rfl, .inl digit⟩
  | minus => exact ⟨_, _, rfl, .inr rfl⟩

/-- A number is scanned as a whole. -/
theorem Written.scan {literal : Literal} {text : List Char} (written : Written literal text)
    (ends : Ends rest) : Literal.scan (text ++ rest) = some (literal, rest) := by
  cases written with
  | minus magnitude => exact magnitude.scan ends
  | unsigned magnitude =>
      rw [← magnitude.scan ends]
      obtain ⟨c, others, rfl, digit⟩ := magnitude.exists_eq
      unfold Literal.scan
      split
      next sign =>
        obtain ⟨rfl, _⟩ := List.cons_eq_cons.mp sign
        exact absurd digit (by decide)
      next => rfl

/-! ## Integers -/

theorem head?_toDigits {n : Nat} (positive : 0 < n) : (Nat.toDigits 10 n).head? ≠ some '0' := by
  induction n using Nat.strongRecOn with
  | _ n ih =>
      rw [Nat.toDigits_eq_if (by decide)]
      split
      next single =>
        intro zero
        have digit : Nat.digitChar n = '0' := Option.some.inj zero
        rw [Nat.digitChar_eq_zero] at digit
        omega
      next more =>
        rw [List.head?_append_of_ne_nil _ Nat.toDigits_ne_nil]
        exact ih (n / 10) (by omega) (by omega)

/-- No number is written with a zero in front, other than zero itself. -/
theorem magnitude_toDigits (negative : Bool) (n : Nat) :
    Magnitude negative ⟨negative, Nat.toDigits 10 n, [], none⟩ (Nat.toDigits 10 n) := by
  have unpadded : (Nat.toDigits 10 n).head? = some '0' → Nat.toDigits 10 n = ['0'] := by
    obtain rfl | positive := Nat.eq_zero_or_pos n
    · exact fun _ => rfl
    · exact fun padded => absurd padded (head?_toDigits positive)
  have magnitude : Magnitude negative _ (Nat.toDigits 10 n ++ ([] ++ [])) :=
    .intro (Numeral.digits_toDigits n) unpadded .absent .absent
  rwa [List.append_nil, List.append_nil] at magnitude

theorem written_toString (value : Int) : Written (ofInt value) (toString value).toList := by
  rw [Numeral.toList_toString, ofInt]
  split
  next nonneg =>
    have sign : decide (value < 0) = false := by simpa using nonneg
    rw [sign]
    exact .unsigned (magnitude_toDigits false value.natAbs)
  next negative =>
    have sign : decide (value < 0) = true := by simpa using negative
    rw [sign]
    exact .minus (magnitude_toDigits true value.natAbs)

theorem digitsValue_eq (digits : List Char) : digitsValue digits = Numeral.digitsValue digits := by
  rw [digitsValue, Numeral.digitsValue, Nat.ofDigitChars_eq_foldl]
  simp only [Nat.mul_comm]

/-- Integers that fit in 64 bits, signed or unsigned, are no floating-point numbers. -/
theorem value?_ofInt {value : Int} (low : Numeral.Range.signed.least ≤ value)
    (high : value ≤ Numeral.Range.unsigned.greatest) :
    (ofInt value).value? = some (.integer value) := by
  have whole : digitsValue (ofInt value).whole = value.natAbs :=
    (digitsValue_eq _).trans (Numeral.digitsValue_toDigits _)
  have integral :
      ¬((!(ofInt value).fraction.isEmpty) = true ∨ (ofInt value).exponent?.isSome = true) := by
    simp [ofInt]
  unfold value?
  simp only [if_neg integral, whole]
  by_cases below : value < 0
  · have sign : (ofInt value).negative = true := by simpa [ofInt] using below
    have magnitude : -(value.natAbs : Int) = value := by omega
    rw [if_pos sign, magnitude, if_pos ⟨by omega, low⟩]
  · have sign : ¬(ofInt value).negative = true := by simpa [ofInt] using below
    have magnitude : (value.natAbs : Int) = value := by omega
    rw [if_neg sign, magnitude, if_pos high]

end QubitRotation.Json.Literal
