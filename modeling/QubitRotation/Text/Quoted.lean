import QubitRotation.Text.Printable

/-!
# Quoted texts

A text is shown in double quotes with every character visible: quotes and backslashes behind a
backslash, the usual control characters by their letter, and any other character that is not
printable by its code point in hexadecimal digits.
-/

namespace QubitRotation.Text

/-- How one character is shown between quotes. -/
def escapeQuoted (c : Char) : List Char :=
  match c with
  | '\x00' => ['\\', '0']
  | '\t' => ['\\', 't']
  | '\n' => ['\\', 'n']
  | '\r' => ['\\', 'r']
  | '"' => ['\\', '"']
  | '\\' => ['\\', '\\']
  | c =>
      if isPrintable c then [c]
      else ['\\', 'u', '{'] ++ Nat.toDigits 16 c.toNat ++ ['}']

/-- A text in quotes. -/
def quoted (text : List Char) : List Char :=
  ['"'] ++ text.flatMap escapeQuoted ++ ['"']

/-- A string in quotes. -/
def quote (text : String) : String := String.ofList (quoted text.toList)

end QubitRotation.Text
