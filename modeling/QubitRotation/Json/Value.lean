/-!
# JSON values and how they are written

Objects keep the order of their members. A value is written in a layout, which says what stands
before each item and after each colon: nothing in the compact layout, a new line with two
spaces for each level and a space after the colon in the pretty one. Empty arrays and objects
have nothing between their brackets in either.

Strings escape quotes, backslashes and the control characters below U+0020 and nothing else.
-/

namespace QubitRotation.Json

/-- A JSON value whose numbers are integers. -/
inductive Value
  | null
  | bool (value : Bool)
  | integer (value : Int)
  | text (value : String)
  | array (items : List Value)
  | object (members : List (String × Value))
  deriving Inhabited

/-- The white space between the parts of a value. -/
structure Layout where
  /-- What stands before an item at some depth, and before a bracket that closes there. -/
  lineBreak : Nat → List Char
  /-- What stands after the colon of a member. -/
  afterColon : List Char

namespace Layout

/-- Everything on one line, without spaces. -/
def compact : Layout := ⟨fun _ => [], []⟩

/-- Each item on a line of its own, indented by two spaces for each level. -/
def pretty : Layout := ⟨fun depth => '\n' :: List.replicate (2 * depth) ' ', [' ']⟩

end Layout

/-- The four hexadecimal digits of a code unit. -/
def fourHexDigits (unit : Nat) : List Char :=
  [unit / 4096 % 16, unit / 256 % 16, unit / 16 % 16, unit % 16].map Nat.digitChar

/-- How one character is written in a string. -/
def escape (c : Char) : List Char :=
  match c with
  | '"' => ['\\', '"']
  | '\\' => ['\\', '\\']
  | '\x08' => ['\\', 'b']
  | '\x0c' => ['\\', 'f']
  | '\n' => ['\\', 'n']
  | '\r' => ['\\', 'r']
  | '\t' => ['\\', 't']
  | c => if c < ' ' then '\\' :: 'u' :: fourHexDigits c.toNat else [c]

/-- A string in quotes. -/
def writeText (text : List Char) : List Char :=
  '"' :: text.flatMap escape ++ ['"']

/-- An integer in decimal digits. -/
def writeInteger (value : Int) : List Char := (toString value).toList

/-- Writes items in brackets, each on a line of its own at the next depth. -/
def Layout.inBrackets (layout : Layout) (opening closing : Char) (depth : Nat) :
    List (List Char) → List Char
  | [] => [opening, closing]
  | items =>
      let lines := items.map (layout.lineBreak (depth + 1) ++ ·)
      opening :: [','].intercalate lines ++ layout.lineBreak depth ++ [closing]

/-- Writes the name of a member and the colon after it. -/
def Layout.key (layout : Layout) (name : String) : List Char :=
  writeText name.toList ++ ':' :: layout.afterColon

mutual

/-- Writes a value that stands at some depth. -/
def Layout.writeAt (layout : Layout) (depth : Nat) : Value → List Char
  | .null => "null".toList
  | .bool true => "true".toList
  | .bool false => "false".toList
  | .integer value => writeInteger value
  | .text value => writeText value.toList
  | .array items => layout.inBrackets '[' ']' depth (layout.writeItems (depth + 1) items)
  | .object members =>
      layout.inBrackets '{' '}' depth (layout.writeMembers (depth + 1) members)

/-- Writes the items of an array one by one. -/
def Layout.writeItems (layout : Layout) (depth : Nat) : List Value → List (List Char)
  | [] => []
  | item :: items => layout.writeAt depth item :: layout.writeItems depth items

/-- Writes the members of an object one by one. -/
def Layout.writeMembers (layout : Layout) (depth : Nat) : List (String × Value) → List (List Char)
  | [] => []
  | (name, value) :: members =>
      (layout.key name ++ layout.writeAt depth value) :: layout.writeMembers depth members

end

/-- Writes a value. -/
def Layout.write (layout : Layout) (value : Value) : List Char := layout.writeAt 0 value

/-- A value on one line. -/
def Value.compact (value : Value) : String := String.ofList (Layout.compact.write value)

/-- A value with each item on a line of its own. -/
def Value.pretty (value : Value) : String := String.ofList (Layout.pretty.write value)

end QubitRotation.Json
