import QubitRotation.Decimal.Shortest
import QubitRotation.Numeral

/-!
# JSON numbers

`scan` recognises a number by the grammar of RFC 8259. Its value is an integer if it has
neither a fraction nor an exponent and fits in 64 bits, signed or unsigned. Any other number is
a floating-point number, minus zero included.

A floating-point value is computed from the leading digits that fit in an unsigned 64-bit
number and the power of ten that places them, with one rounding for the digits and one for the
power. A number that would exceed the floating-point range has no value.
-/

namespace QubitRotation.Json

/-- The spelling of a number. An absent fraction has no digits. -/
structure Literal where
  negative : Bool
  whole : List Char
  fraction : List Char
  /-- Whether the exponent is negative, and its digits. -/
  exponent? : Option (Bool × List Char)

/-- The value of a number. -/
inductive Number
  | integer (value : Int)
  | floating (value : Float)

namespace Literal

/-- Reads the digits of an exponent, of which there has to be one. -/
def scanExponentDigits (negative : Bool) (text : List Char) :
    Option (Option (Bool × List Char) × List Char) :=
  match text.span Char.isDigit with
  | ([], _) => none
  | (digits, rest) => some (some (negative, digits), rest)

/-- Reads an exponent, if there is one. -/
def scanExponent : List Char → Option (Option (Bool × List Char) × List Char)
  | c :: rest =>
      if c = 'e' ∨ c = 'E' then
        match rest with
        | '+' :: rest => scanExponentDigits false rest
        | '-' :: rest => scanExponentDigits true rest
        | rest => scanExponentDigits false rest
      else some (none, c :: rest)
  | [] => some (none, [])

/-- Reads the fraction of a number, if there is one. -/
def scanFraction : List Char → Option (List Char × List Char)
  | '.' :: rest =>
      match rest.span Char.isDigit with
      | ([], _) => none
      | split => some split
  | rest => some ([], rest)

/-- Reads the whole digits of a number: a single zero, or digits that begin otherwise. -/
def scanWhole (text : List Char) : Option (List Char × List Char) :=
  match text.span Char.isDigit with
  | ([], _) => none
  | ('0' :: _ :: _, _) => none
  | split => some split

/-- Reads a number behind its sign. -/
def scanMagnitude (negative : Bool) (text : List Char) : Option (Literal × List Char) := do
  let (whole, rest) ← scanWhole text
  let (fraction, rest) ← scanFraction rest
  let (exponent?, rest) ← scanExponent rest
  return ({ negative, whole, fraction, exponent? }, rest)

/-- Reads a number. -/
def scan : List Char → Option (Literal × List Char)
  | '-' :: rest => scanMagnitude true rest
  | rest => scanMagnitude false rest

/-- Digits that have been taken up, and the power of ten that places them. -/
structure Significand where
  digits : Nat
  exponent : Int
  /-- Whether a digit of the fraction has been left out, and with it all that follow. -/
  full : Bool := false

/-- Takes up a whole digit, or shifts by one place if it no longer fits in 64 bits. -/
def Significand.addWhole (significand : Significand) (c : Char) : Significand :=
  let digits := significand.digits * 10 + (c.toNat - '0'.toNat)
  if significand.exponent = 0 ∧ digits < UInt64.size then { significand with digits }
  else { significand with exponent := significand.exponent + 1 }

/-- Takes up a digit of the fraction if it fits in 64 bits. -/
def Significand.addFraction (significand : Significand) (c : Char) : Significand :=
  let digits := significand.digits * 10 + (c.toNat - '0'.toNat)
  if !significand.full ∧ digits < UInt64.size then
    { significand with digits, exponent := significand.exponent - 1 }
  else { significand with full := true }

/-- The digits of a number that fit in 64 bits. -/
def significand (literal : Literal) : Significand :=
  literal.fraction.foldl .addFraction (literal.whole.foldl .addWhole ⟨0, 0, false⟩)

/-- The value of decimal digits. -/
def digitsValue (digits : List Char) : Nat :=
  digits.foldl (fun value c => value * 10 + (c.toNat - '0'.toNat)) 0

/-- A power of ten as a floating-point number. -/
def powerOfTen (exponent : Nat) : Float := Float.ofScientific 1 false exponent

/-- Multiplies by a power of ten, or divides by powers of at most `10 ^ 308`. -/
def place (value : Float) (exponent : Int) : Option Float :=
  if 308 < exponent then (if value == 0 then some value else none)
  else if 0 ≤ exponent then
    let placed := value * powerOfTen exponent.toNat
    if placed.isInf then none else some placed
  else if -308 ≤ exponent then some (value / powerOfTen (-exponent).toNat)
  else if -616 ≤ exponent then
    some (value / powerOfTen 308 / powerOfTen (-exponent - 308).toNat)
  else some 0

/-- The magnitude of a floating-point number. An exponent whose digits exceed 31 bits makes the
number zero, or takes it out of range. -/
def magnitude (literal : Literal) : Option Float :=
  let significand := literal.significand
  let value := significand.digits.toUInt64.toFloat
  match literal.exponent? with
  | none => place value significand.exponent
  | some (negative, digits) =>
      let exponent := digitsValue digits
      if 0x80000000 ≤ exponent then
        if significand.digits = 0 ∨ negative then some 0 else none
      else if negative then place value (significand.exponent - exponent)
      else place value (significand.exponent + exponent)

/-- The floating-point value of a number. -/
def floating? (literal : Literal) : Option Number :=
  literal.magnitude.map fun value => .floating (if literal.negative then -value else value)

/-- The value of a number, unless it is out of range. -/
def value? (literal : Literal) : Option Number :=
  let whole := digitsValue literal.whole
  if !literal.fraction.isEmpty ∨ literal.exponent?.isSome then literal.floating?
  else if literal.negative then
    if 0 < whole ∧ Numeral.Range.signed.least ≤ -whole then some (.integer (-whole))
    else literal.floating?
  else
    if whole ≤ Numeral.Range.unsigned.greatest then some (.integer whole)
    else literal.floating?

end Literal

/-- Floating-point numbers from `10 ^ -5` up to below `10 ^ 16` are written positionally. -/
def floatingForm : Decimal.Form where
  leastPositional := -5
  greatestPositional := 15

end QubitRotation.Json
