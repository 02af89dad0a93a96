import QubitRotation.Json.Number
import QubitRotation.Text.Quoted

/-!
# What a JSON text fails to be

A text is read from the front and the first fault in reading order is the one that counts. A
text that breaks the grammar of JSON is merely broken; where it broke is not kept.
-/

namespace QubitRotation.Json

/-- The front of a value: a scalar as a whole, or the bracket that opens an array or object. -/
inductive Head
  | null
  | bool (value : Bool)
  | number (value : Number)
  | text (value : List Char)
  | array
  | object

/-- A value by its kind and, for a scalar, its content. -/
def Head.describe : Head → String
  | null => "null"
  | bool true => "boolean `true`"
  | bool false => "boolean `false`"
  | number (.integer value) => s!"integer `{value}`"
  | number (.floating value) => s!"floating point `{floatingForm.text value}`"
  | text value => s!"string {String.ofList (Text.quoted value)}"
  | array => "sequence"
  | object => "map"

/-- Why a JSON text does not hold what it should. -/
inductive Fault
  /-- The text is not JSON. -/
  | broken
  /-- A value of another kind than the one asked for. -/
  | invalidType (found : Head) (wanted : String)
  /-- An integer outside the range asked for. -/
  | invalidValue (found : Int) (wanted : String)
  /-- An array too short for the fields of a record. -/
  | invalidLength (length : Nat) (record : String) (fields : Nat)
  /-- A name that is none of the names of an enumeration. -/
  | unknownVariant (name : String) (known : List String)
  /-- A record without one of its fields. -/
  | missingField (name : String)
  /-- A record with a field that occurs twice. -/
  | duplicateField (name : String)

/-- The wording of a fault. -/
def Fault.message : Fault → String
  | broken => "<syntax>"
  | invalidType found wanted => s!"invalid type: {found.describe}, expected {wanted}"
  | invalidValue found wanted => s!"invalid value: integer `{found}`, expected {wanted}"
  | invalidLength length record fields =>
      s!"invalid length {length}, expected struct {record} with {fields} elements"
  | unknownVariant name known =>
      let names := ", ".intercalate (known.map fun name => s!"`{name}`")
      s!"unknown variant `{name}`, expected one of {names}"
  | missingField name => s!"missing field `{name}`"
  | duplicateField name => s!"duplicate field `{name}`"

end QubitRotation.Json
