import QubitRotation.Proofs.Json.RoundTrip

/-!
# Settings that are loaded from JSON

An object gives settings by its members (`Entry`): some of the four fields, each with a value of its
type, among members under other names, which may hold any value of JSON. `ObjectOf` says which texts
are objects with given members: the order is that of the members, white space may stand around every
part, and a name may be spelled with escapes.

If no field is given twice, the members fill a draft one after another
(`ObjectOf.parse_eq`). The settings that it amounts to are the default ones, overwritten by one
member after another, and they are checked only when all of them have been read. What is written for
settings is such an object, too (`objectOf_json`).
-/

namespace QubitRotation.Settings

open Json

/-- The names of the fields. -/
def fieldNames : List String := ["cost_z", "cost_x", "max_iterations_factor", "verbose"]

/-- A member of an object that gives settings: a field with its value, or any value of JSON under
another name. -/
inductive Entry
  | costZ (cost : UInt64)
  | costX (cost : UInt64)
  | factor (multiple : UInt64)
  | verbose (wanted : Bool)
  | other (name : String) (value : List Char) (stranger : name ∉ fieldNames)
      (wellFormed : WellFormed value)

namespace Entry

/-- The name of a member. -/
def name : Entry → String
  | costZ _ => "cost_z"
  | costX _ => "cost_x"
  | factor _ => "max_iterations_factor"
  | verbose _ => "verbose"
  | other name .. => name

/-- The value of a member, as it stands in a text. -/
def value : Entry → List Char
  | costZ cost | costX cost => (toString cost.toNat).toList
  | factor multiple => (toString multiple.toNat).toList
  | verbose wanted => (toString wanted).toList
  | other _ value .. => value

/-- The settings with one field overwritten. -/
def overwrite (settings : Settings) : Entry → Settings
  | costZ cost => { settings with costZ := cost }
  | costX cost => { settings with costX := cost }
  | factor multiple => { settings with factor := multiple }
  | verbose wanted => { settings with verbose := wanted }
  | other .. => settings

/-- A part of an object that holds a member, with white space around it. -/
def Part (entry : Entry) (part : List Char) : Prop :=
  ∃ before written after, part = before ++ (written ++ after) ∧ Spaces before ∧
    Format.Named entry.name entry.value written ∧ Spaces after

end Entry

/-- No field is given twice. Other names may be. -/
def DistinctFields (entries : List Entry) : Prop :=
  ∀ name ∈ fieldNames, (entries.map Entry.name).count name ≤ 1

/-- The text of an object with some members in order, and white space around it. -/
inductive ObjectOf (entries : List Entry) : List Char → Prop
  | intro {before inner after : List Char} {parts : List (List Char)} : Spaces before →
      List.Forall₂ Entry.Part entries parts → Spaces inner → Spaces after →
      ObjectOf entries
        (before ++ ('{' :: ([','].intercalate parts ++ (inner ++ ['}'])) ++ after))

/-- A text from which settings are loaded if they are valid, and refused with their own fault
otherwise. -/
structure Loads (text : String) (settings : Settings) : Prop where
  accepted : settings.check = .ok () → ofJson text = .ok settings
  refused {fault : Fault} : settings.check = .error fault → ofJson text = .error fault

variable {entry behind : Entry} {entries : List Entry} {draft : Draft} {settings : Settings}
  {written : List Char} {text : String}

/-! ## Drafts -/

namespace Entry

/-- The draft with one field read. -/
def fill (draft : Draft) : Entry → Draft
  | costZ cost => { draft with costZ? := some cost }
  | costX cost => { draft with costX? := some cost }
  | factor multiple => { draft with factor? := some multiple }
  | verbose wanted => { draft with verbose? := some wanted }
  | other .. => draft

/-- The field of a member has not been read yet. -/
def Fresh (draft : Draft) : Entry → Prop
  | costZ _ => draft.costZ?.isSome = false
  | costX _ => draft.costX?.isSome = false
  | factor _ => draft.factor?.isSome = false
  | verbose _ => draft.verbose?.isSome = false
  | other .. => True

theorem settings_fill (draft : Draft) (entry : Entry) :
    (entry.fill draft).settings = entry.overwrite draft.settings := by
  cases entry <;> rfl

theorem fresh_start (entry : Entry) : entry.Fresh {} := by
  cases entry <;> first | rfl | trivial

/-- Reading one field leaves the others unread. -/
theorem Fresh.fill (fresh : behind.Fresh draft)
    (apart : entry.name = behind.name → entry.name ∉ fieldNames) :
    behind.Fresh (entry.fill draft) := by
  cases entry <;> cases behind <;>
    first
    | exact fresh
    | exact absurd (by simp [name, fieldNames]) (apart rfl)

/-- No field is read under another name. -/
theorem find?_of_stranger {name : String} (stranger : name ∉ fieldNames) :
    format.fields.find? (·.name == name) = none := by
  refine List.find?_eq_none.mpr fun field known same => stranger ?_
  have named : field.name ∈ format.fields.map Field.name := List.mem_map_of_mem known
  rwa [eq_of_beq same] at named

/-- A member is read into a draft that does not hold its field yet. -/
theorem member (fresh : entry.Fresh draft) (named : Format.Named entry.name entry.value written) :
    format.Member draft written (entry.fill draft) := by
  cases entry with
  | costZ cost =>
      exact Format.member_of_field named rfl fresh
        (Format.takes_field (takes_uint64 cost "u64") draft)
  | costX cost =>
      exact Format.member_of_field named rfl fresh
        (Format.takes_field (takes_uint64 cost "u64") draft)
  | factor multiple =>
      exact Format.member_of_field named rfl fresh
        (Format.takes_field (takes_uint64 multiple "usize") draft)
  | verbose wanted =>
      exact Format.member_of_field named rfl fresh (Format.takes_field (takes_bool wanted) draft)
  | other name value stranger wellFormed =>
      exact Format.member_of_stranger named (find?_of_stranger stranger) wellFormed

end Entry

/-! ## Members one after another -/

/-- No member gives the field of the first one again. -/
theorem DistinctFields.of_cons (distinct : DistinctFields (entry :: entries)) :
    DistinctFields entries ∧
      ∀ behind ∈ entries, entry.name = behind.name → entry.name ∉ fieldNames := by
  constructor
  · intro name known
    have once := distinct name known
    rw [List.map_cons] at once
    exact Nat.le_trans List.count_le_count_cons once
  · intro behind given same known
    have once := distinct entry.name known
    have again : 0 < (entries.map Entry.name).count entry.name :=
      List.count_pos_iff.mpr (List.mem_map.mpr ⟨behind, given, same.symm⟩)
    rw [List.map_cons, List.count_cons_self] at once
    omega

/-- Members that give no field twice fill a draft, which amounts to its settings with each of them
overwritten in turn. -/
theorem members_of_parts {parts : List (List Char)}
    (given : List.Forall₂ Entry.Part entries parts) (distinct : DistinctFields entries)
    (fresh : ∀ entry ∈ entries, entry.Fresh draft) :
    format.Members draft parts (entries.foldl Entry.overwrite draft.settings) := by
  induction given generalizing draft with
  | nil => exact .nil rfl
  | @cons entry part entries parts holds _ ih =>
      obtain ⟨before, written, after, rfl, front, named, back⟩ := holds
      obtain ⟨freshFirst, freshOthers⟩ := List.forall_mem_cons.mp fresh
      obtain ⟨distinctOthers, apart⟩ := distinct.of_cons
      refine .cons front (entry.member freshFirst named) back ?_
      rw [List.foldl_cons, ← Entry.settings_fill]
      exact ih distinctOthers fun behind given =>
        (freshOthers behind given).fill (apart behind given)

/-! ## Whole texts -/

/-- From an object that gives no field twice the default settings are read, overwritten by what it
gives. -/
theorem ObjectOf.parse_eq (object : ObjectOf entries text.toList)
    (distinct : DistinctFields entries) :
    parse reader text = .ok (entries.foldl Entry.overwrite {}) := by
  generalize whole : text.toList = characters at object
  obtain ⟨front, given, inside, back⟩ := object
  rw [intercalate_eq_listed] at whole
  have filled := members_of_parts given distinct fun entry _ => entry.fresh_start
  exact parse_of_taken (Format.takes_members filled inside) front back whole

/-- Settings are checked when all of them have been read. -/
theorem ofJson_of_parse (read : parse reader text = .ok settings) :
    ofJson text = settings.checked := by
  rw [ofJson, read]
  rfl

theorem loads_of_parse (read : parse reader text = .ok settings) : Loads text settings where
  accepted valid := by
    rw [ofJson_of_parse read, checked, valid]
    rfl
  refused fault := by
    rw [ofJson_of_parse read, checked, fault]
    rfl

/-! ## Settings as they are written -/

/-- All fields of some settings. -/
def fields (settings : Settings) : List Entry :=
  [.costZ settings.costZ, .costX settings.costX, .factor settings.factor,
    .verbose settings.verbose]

theorem distinctFields_fields (settings : Settings) : DistinctFields settings.fields := by
  have once : ∀ name ∈ fieldNames, fieldNames.count name ≤ 1 := by decide
  exact once

/-- A member as it is written in a layout. -/
def Entry.write (layout : Layout) (entry : Entry) : List Char :=
  layout.key entry.name ++ entry.value

theorem Entry.part_write {layout : Layout} (spaced : layout.Spaced) (depth : Nat) (entry : Entry) :
    entry.Part (layout.lineBreak depth ++ entry.write layout) :=
  ⟨_, entry.write layout, [], by rw [List.append_nil], spaced.lineBreak depth,
    Format.named_key spaced entry.name entry.value, spaces_nil⟩

theorem toList_pretty_json (settings : Settings) :
    settings.json.pretty.toList =
      Layout.pretty.inBrackets '{' '}' 0 (settings.fields.map (Entry.write .pretty)) := by
  obtain ⟨costZ, costX, factor, verbose⟩ := settings
  rw [Value.pretty, String.toList_ofList]
  cases verbose <;> rfl

/-- What is written for settings is an object that gives all their fields. -/
theorem objectOf_json (settings : Settings) :
    ObjectOf settings.fields settings.json.pretty.toList := by
  obtain ⟨inner, spaces, written⟩ := Layout.pretty.exists_inBrackets_eq Layout.spaced_pretty '{' '}'
    0 (settings.fields.map (Entry.write .pretty))
  have given : List.Forall₂ Entry.Part settings.fields
      ((settings.fields.map (Entry.write .pretty)).map (Layout.pretty.lineBreak 1 ++ ·)) := by
    rw [List.map_map, List.forall₂_map_right_iff, List.forall₂_same]
    exact fun entry _ => entry.part_write Layout.spaced_pretty 1
  have object := ObjectOf.intro spaces_nil given spaces spaces_nil
  rw [toList_pretty_json, written]
  rwa [intercalate_eq_listed, List.nil_append, List.append_nil] at object

/-- Settings are loaded from what is written for them, and from every object that gives no field
twice: the default settings overwritten by the fields that it gives. Either way settings that are
not valid are refused with their own fault. The names of the members of the object spell texts, so
an escape for half of a surrogate pair does not occur in them, while the values of unknown members,
and the names within these, may hold it. -/
theorem settings_load_from_objects :
    (∀ settings : Settings, Loads settings.json.pretty settings) ∧
    ∀ (entries : List Entry) (text : String), DistinctFields entries →
      ObjectOf entries text.toList → Loads text (entries.foldl Entry.overwrite {}) := by
  constructor
  · intro settings
    have read : parse reader settings.json.pretty = .ok settings :=
      (objectOf_json settings).parse_eq settings.distinctFields_fields
    exact loads_of_parse read
  · intro entries text distinct object
    exact loads_of_parse (object.parse_eq distinct)

/-- A field with an escape in its name, between two members of the same unknown name, and settings
with more faults than one. -/
theorem settings_load_from_objects_of_partial :
    let unchecked : Settings := { costX := 0, factor := 0 }
    let given := " \x7b \"unknown\" : [null,\x7b\x7d],\"\\u0063ost_x\":7 ,\"unknown\":true\n\x7d"
    ofJson unchecked.json.pretty = .error (.invalidCost .x 0) ∧
    (∃ entries, DistinctFields entries ∧ ObjectOf entries given.toList) ∧
    ofJson given = .ok { costX := 7 } := by
  intro unchecked given
  have refused : ofJson unchecked.json.pretty = .error (.invalidCost .x 0) :=
    (settings_load_from_objects.1 unchecked).refused rfl
  have stranger : "unknown" ∉ fieldNames := by decide
  have inside : Parts .array _ := .more .item spaces_nil (.scalar .null) spaces_nil
    (.last .item spaces_nil (@WellFormed.empty .object [] spaces_nil) spaces_nil)
  have nested : WellFormed "[null,\x7b\x7d]".toList := .filled inside
  let entries : List Entry :=
    [.other "unknown" _ stranger nested, .costX 7,
      .other "unknown" _ stranger (.scalar (.bool true))]
  have distinct : DistinctFields entries := by
    have once : ∀ name ∈ fieldNames, ["unknown", "cost_x", "unknown"].count name ≤ 1 := by decide
    exact once
  have blank : Spaces [' '] := by decide
  have feed : Spaces ['\n'] := by decide
  have letter : Spelling 'c' "\\u0063".toList := .number (by decide)
  have escaped : Spells _ ('c' :: "ost_x".toList) := .cons letter (spells_escape "ost_x".toList)
  have first : Entry.Part (.other "unknown" _ stranger nested) _ :=
    ⟨_, _, _, rfl, blank, .intro (spells_escape _) blank blank, spaces_nil⟩
  have second : Entry.Part (.costX 7) _ :=
    ⟨_, _, _, rfl, spaces_nil, .intro escaped spaces_nil spaces_nil, blank⟩
  have third : Entry.Part (.other "unknown" _ stranger (.scalar (.bool true))) _ :=
    ⟨_, _, _, rfl, spaces_nil, .intro (spells_escape _) spaces_nil spaces_nil, feed⟩
  have object : ObjectOf entries given.toList := by
    have built := ObjectOf.intro blank (.cons first (.cons second (.cons third .nil)))
      spaces_nil spaces_nil
    simp only [Entry.name, Entry.value] at built
    exact cast (congrArg (ObjectOf entries) (by decide)) built
  have loads : Loads given { costX := 7 } :=
    settings_load_from_objects.2 entries given distinct object
  exact ⟨refused, ⟨entries, distinct, object⟩, loads.accepted rfl⟩

end QubitRotation.Settings
