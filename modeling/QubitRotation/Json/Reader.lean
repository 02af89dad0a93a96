import QubitRotation.Json.Fault
import QubitRotation.Json.Text

/-!
# Reading JSON from the front

A reader takes a value of one type from the front of a text. Every reader first looks at the
`head` of the value. A value of another kind is refused as soon as its head is known: a scalar
has been read to its end by then, of an array or object only the opening bracket.
-/

namespace QubitRotation.Json

/-- Takes something from the front of a text. -/
abbrev Reader := StateT (List Char) (Except Fault)

/-- White space in JSON. -/
def isSpace (c : Char) : Bool := c == ' ' || c == '\n' || c == '\t' || c == '\r'

/-- The text without white space at its front. -/
def skipSpace (text : List Char) : List Char := text.dropWhile isSpace

/-- The result of a scan, or a broken text. -/
def orBroken {α : Type} : Option α → Except Fault α
  | some result => .ok result
  | none => .error .broken

/-- Reads the head of a value that is a number. -/
def numberHead (text : List Char) : Except Fault (Head × List Char) := do
  let (literal, rest) ← orBroken (Literal.scan text)
  let number ← orBroken literal.value?
  return (.number number, rest)

/-- Reads the head of a value. -/
def head : Reader Head := fun text =>
  match skipSpace text with
  | '[' :: rest => .ok (.array, rest)
  | '{' :: rest => .ok (.object, rest)
  | '"' :: rest => do
      let (text, rest) ← orBroken (readText rest)
      return (.text text, rest)
  | 'n' :: 'u' :: 'l' :: 'l' :: rest => .ok (.null, rest)
  | 't' :: 'r' :: 'u' :: 'e' :: rest => .ok (.bool true, rest)
  | 'f' :: 'a' :: 'l' :: 's' :: 'e' :: rest => .ok (.bool false, rest)
  | text => numberHead text

/-- Takes a certain character, with white space before it. -/
def expect (c : Char) : Reader Unit := fun text =>
  match skipSpace text with
  | first :: rest => if first = c then .ok ((), rest) else .error .broken
  | [] => .error .broken

/-- Refuses a value of another kind than `wanted`. -/
def wrongType {α : Type} (found : Head) (wanted : String) : Reader α :=
  throw (.invalidType found wanted)

/-! ## Scalars -/

/-- Reads an integer of a range. -/
def readInteger (range : Numeral.Range) (wanted : String) : Reader Int := do
  match ← head with
  | .number (.integer value) =>
      if range.least ≤ value ∧ value ≤ range.greatest then return value
      else throw (.invalidValue value wanted)
  | found => wrongType found wanted

/-- Reads a signed 64-bit number. -/
def readInt64 : Reader Int64 := do
  return Int64.ofInt (← readInteger .signed "i64")

/-- Reads an unsigned 64-bit number. -/
def readUInt64 (wanted : String) : Reader UInt64 := do
  return UInt64.ofNat (← readInteger .unsigned wanted).toNat

/-- Reads a count of things, which has to fit in 64 bits. -/
def readCount : Reader Nat := do
  return (← readInteger .unsigned "usize").toNat

/-- Reads a truth value. -/
def readBool : Reader Bool := do
  match ← head with
  | .bool value => return value
  | found => wrongType found "a boolean"

/-- Reads a string. -/
def readString : Reader String := do
  match ← head with
  | .text value => return String.ofList value
  | found => wrongType found "a string"

/-- Reads a string or nothing. -/
def readString? : Reader (Option String) := do
  match ← head with
  | .null => return none
  | .text value => return some (String.ofList value)
  | found => wrongType found "a string"

/-! ## Enumerations -/

/-- The member of an enumeration that has a name. -/
def pick {α : Type} (known : List (String × α)) (name : List Char) : Reader α :=
  let name := String.ofList name
  match known.lookup name with
  | some member => return member
  | none => throw (.unknownVariant name (known.map Prod.fst))

/-- Reads a member of an enumeration: its name, or an object that holds null under its name. -/
def readVariant {α : Type} (known : List (String × α)) : Reader α := do
  match ← head with
  | .text name => pick known name
  | .object =>
      match ← head with
      | .text name =>
          let member ← pick known name
          expect ':'
          match ← head with
          | .null => expect '}'
          | found => wrongType found "unit"
          return member
      | _ => throw .broken
  | _ => throw .broken

/-! ## Arrays -/

/-- Looks for an item of an array: takes the comma before it unless it is the first one, or
takes the closing bracket. Answers whether there is an item. -/
def nextItem (first : Bool) : Reader Bool := fun text =>
  match skipSpace text with
  | [] => .error .broken
  | ']' :: rest => .ok (false, rest)
  | c :: rest =>
      if first then .ok (true, c :: rest)
      else if c = ',' then
        match skipSpace rest with
        | [] => .error .broken
        | ']' :: _ => .error .broken
        | rest => .ok (true, rest)
      else .error .broken

/-- Reads items up to the closing bracket, fewer than `bound` has characters. -/
def readItems {α : Type} (item : Reader α) : (bound : List Char) → (first : Bool) →
    Reader (List α)
  | [], _ => throw .broken
  | _ :: bound, first => do
      if ← nextItem first then
        let value ← item
        return value :: (← readItems item bound false)
      else return []

/-- Reads an array. Each item takes a character at least, so the text from the opening bracket
on bounds their number. -/
def readArray {α : Type} (item : Reader α) : Reader (List α) := do
  match ← head with
  | .array => readItems item ('[' :: (← get)) true
  | found => wrongType found "a sequence"

/-! ## Whole texts -/

/-- Reads a text that holds one value and otherwise only white space. -/
def readWhole {α : Type} (reader : Reader α) (text : List Char) : Except Fault α := do
  let (value, rest) ← reader text
  if (skipSpace rest).isEmpty then return value else throw .broken

end QubitRotation.Json
