import QubitRotation.Json.Skip

/-!
# Reading records

A record is read from an object, whose members may come in any order and among others, or from
an array of its fields in order. What has been read so far is a draft; `finish` makes the
record of it or names the first field that is missing. Fields with a default are never missing,
so they may be left out of an object and off the end of an array.

A field that occurs twice is refused at its second name, a missing one at the closing bracket.
-/

namespace QubitRotation.Json

/-- A field of a record: its name, whether a draft holds it, and how it is read into one. -/
structure Field (δ : Type) where
  name : String
  isRead : δ → Bool
  read : δ → Reader δ

/-- How a record is read. -/
structure Format (δ α : Type) where
  name : String
  start : δ
  fields : List (Field δ)
  finish : δ → Except String α

namespace Format

variable {δ α : Type}

/-- The record that a draft amounts to. -/
def complete (format : Format δ α) (draft : δ) : Reader α :=
  match format.finish draft with
  | .ok record => return record
  | .error name => throw (.missingField name)

/-- Looks for a member of an object: takes the comma before it unless it is the first one, and
its name, or takes the closing bracket. -/
def nextKey (first : Bool) : Reader (Option (List Char)) := fun text => do
  let text ←
    match skipSpace text with
    | '}' :: rest => return (none, rest)
    | ',' :: rest => if first then .error .broken else .ok (skipSpace rest)
    | text => if first then .ok text else .error .broken
  match text with
  | '"' :: rest => do
      let (key, rest) ← orBroken (readText rest)
      return (some key, rest)
  | _ => .error .broken

/-- Reads the member of a name into a draft, or passes over it if the record has no such
field. -/
def readMember (format : Format δ α) (draft : δ) (key : List Char) : Reader δ :=
  match format.fields.find? (·.name == String.ofList key) with
  | some field => do
      if field.isRead draft then throw (.duplicateField field.name)
      expect ':'
      field.read draft
  | none => do
      expect ':'
      skipValue
      return draft

/-- Reads members up to the closing bracket, fewer than `bound` has characters. -/
def readMembers (format : Format δ α) : (bound : List Char) → (first : Bool) → δ → Reader α
  | [], _, _ => throw .broken
  | _ :: bound, first, draft => do
      match ← nextKey first with
      | none => format.complete draft
      | some key => readMembers format bound false (← format.readMember draft key)

/-- Reads the remaining fields of an array, the first of which has index `index`. -/
def readInOrder (format : Format δ α) : (index : Nat) → List (Field δ) → δ → Reader α
  | _, [], draft => do
      expect ']'
      format.complete draft
  | index, field :: fields, draft => do
      if ← nextItem (index == 0) then
        readInOrder format (index + 1) fields (← field.read draft)
      else
        match format.finish draft with
        | .ok record => return record
        | .error _ => throw (.invalidLength index format.name format.fields.length)

/-- Reads a record. Each member takes a character at least, so the text from the opening bracket
on bounds their number. -/
def read (format : Format δ α) : Reader α := do
  match ← head with
  | .object => format.readMembers ('{' :: (← get)) true format.start
  | .array => format.readInOrder 0 format.fields format.start
  | found => wrongType found s!"struct {format.name}"

end Format

end QubitRotation.Json
