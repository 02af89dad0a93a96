/-!
# JSON strings

`readText` reads a string from behind its opening quote, with all its escapes. A character
beyond U+FFFF is written as two escapes that belong together; half of such a pair on its own
names no character. `skipText` passes over a string without asking what its escapes stand for.
-/

namespace QubitRotation.Json

/-- The value of a hexadecimal digit. -/
def hexDigit? (c : Char) : Option Nat :=
  if '0' ≤ c ∧ c ≤ '9' then some (c.toNat - '0'.toNat)
  else if 'a' ≤ c ∧ c ≤ 'f' then some (c.toNat - 'a'.toNat + 10)
  else if 'A' ≤ c ∧ c ≤ 'F' then some (c.toNat - 'A'.toNat + 10)
  else none

/-- The code unit that four hexadecimal digits stand for. -/
def codeUnit? (a b c d : Char) : Option Nat := do
  return (((← hexDigit? a) * 16 + (← hexDigit? b)) * 16 + (← hexDigit? c)) * 16 + (← hexDigit? d)

/-- Whether a code unit is the first half of a pair. -/
def isHighHalf (unit : Nat) : Bool := 0xD800 ≤ unit && unit ≤ 0xDBFF

/-- Whether a code unit is the second half of a pair. -/
def isLowHalf (unit : Nat) : Bool := 0xDC00 ≤ unit && unit ≤ 0xDFFF

/-- The character that two halves make. -/
def ofHalves (high low : Nat) : Char :=
  Char.ofNat (0x10000 + (high - 0xD800) * 0x400 + (low - 0xDC00))

/-- The character that a single letter behind a backslash stands for. -/
def ofLetter? : Char → Option Char
  | '"' => some '"'
  | '\\' => some '\\'
  | '/' => some '/'
  | 'b' => some '\x08'
  | 'f' => some '\x0c'
  | 'n' => some '\n'
  | 'r' => some '\r'
  | 't' => some '\t'
  | _ => none

/-- Puts a character in front of the text that was read. -/
def prepend (c : Char) (read? : Option (List Char × List Char)) :
    Option (List Char × List Char) :=
  read?.map fun (text, rest) => (c :: text, rest)

/-- Reads a string from behind its opening quote, and gives what follows the closing one. -/
def readText : List Char → Option (List Char × List Char)
  | [] => none
  | '"' :: rest => some ([], rest)
  | '\\' :: 'u' :: a :: b :: c :: d :: rest =>
      match codeUnit? a b c d with
      | none => none
      | some unit =>
          if isLowHalf unit then none
          else if isHighHalf unit then
            match rest with
            | '\\' :: 'u' :: e :: f :: g :: h :: rest =>
                match codeUnit? e f g h with
                | none => none
                | some low =>
                    if isLowHalf low then prepend (ofHalves unit low) (readText rest) else none
            | _ => none
          else prepend (Char.ofNat unit) (readText rest)
  | '\\' :: letter :: rest =>
      match ofLetter? letter with
      | none => none
      | some c => prepend c (readText rest)
  | c :: rest => if c < ' ' ∨ c = '\\' then none else prepend c (readText rest)

/-- Gives what follows the closing quote of a string. -/
def skipText : List Char → Option (List Char)
  | [] => none
  | '"' :: rest => some rest
  | '\\' :: 'u' :: a :: b :: c :: d :: rest =>
      if (codeUnit? a b c d).isSome then skipText rest else none
  | '\\' :: letter :: rest => if (ofLetter? letter).isSome then skipText rest else none
  | c :: rest => if c < ' ' ∨ c = '\\' then none else skipText rest

end QubitRotation.Json
