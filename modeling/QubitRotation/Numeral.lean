/-!
# Decimal numerals of bounded range

A numeral is an optional sign and at least one ASCII digit; leading zeros are allowed. It is
read from left to right and the first fault decides: a character that is no digit, or a digit
that takes the value out of the range. Only ranges with negative numbers know the minus sign.
-/

namespace QubitRotation.Numeral

/-- Why a text is no numeral of the range. -/
inductive Fault
  | empty
  | invalidDigit
  | tooLarge
  | tooSmall
  deriving DecidableEq, Repr

/-- The wording of a fault. -/
def Fault.message : Fault → String
  | empty => "cannot parse integer from empty string"
  | invalidDigit => "invalid digit found in string"
  | tooLarge => "number too large to fit in target type"
  | tooSmall => "number too small to fit in target type"

/-- The value of an ASCII digit. -/
def digit? (c : Char) : Option Nat :=
  if '0' ≤ c ∧ c ≤ '9' then some (c.toNat - '0'.toNat) else none

/-- The numbers a numeral may stand for. -/
structure Range where
  least : Int
  greatest : Int

namespace Range

/-- Signed 64-bit numbers. -/
def signed : Range := ⟨Int64.minValue.toInt, Int64.maxValue.toInt⟩

/-- Unsigned 64-bit numbers. -/
def unsigned : Range := ⟨0, UInt64.size - 1⟩

/-- The value with one more digit, which moves it away from zero. -/
def advance (range : Range) (negative : Bool) (value : Int) (digit : Nat) : Except Fault Int :=
  if negative then
    if range.least ≤ value * 10 - digit then .ok (value * 10 - digit) else .error .tooSmall
  else
    if value * 10 + digit ≤ range.greatest then .ok (value * 10 + digit) else .error .tooLarge

/-- The value that the digits lead to from `value`. -/
def readDigits (range : Range) (negative : Bool) (value : Int) : List Char → Except Fault Int
  | [] => .ok value
  | c :: rest =>
      match digit? c with
      | none => .error .invalidDigit
      | some digit =>
          match range.advance negative value digit with
          | .error fault => .error fault
          | .ok next => readDigits range negative next rest

/-- The value of the digits after a sign; there has to be one. -/
def readUnsigned (range : Range) (negative : Bool) (digits : List Char) : Except Fault Int :=
  if digits.isEmpty then .error .invalidDigit else range.readDigits negative 0 digits

/-- The value of a whole numeral. -/
def read (range : Range) : List Char → Except Fault Int
  | [] => .error .empty
  | '+' :: digits => range.readUnsigned false digits
  | '-' :: digits =>
      if range.least < 0 then range.readUnsigned true digits else .error .invalidDigit
  | digits => range.readDigits false 0 digits

end Range

/-- The signed 64-bit number that a text stands for. -/
def readInt64 (text : List Char) : Except Fault Int64 :=
  (Range.signed.read text).map Int64.ofInt

/-- The unsigned 64-bit number that a text stands for. -/
def readUInt64 (text : List Char) : Except Fault UInt64 :=
  (Range.unsigned.read text).map fun value => UInt64.ofNat value.toNat

end QubitRotation.Numeral
