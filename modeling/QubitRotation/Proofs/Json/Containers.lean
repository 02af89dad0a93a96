import Mathlib.Data.List.Forall2
import QubitRotation.Proofs.Json.Grammar
import QubitRotation.Proofs.Lists

/-!
# Arrays and objects that are written and read back

Whatever the layout, an array or an object is written as parts with commas between them
(`listed`) and white space around them (`Layout.Spaced`). The parts of an array hold its items
(`Item`), so a list is read back if each of its items is (`takes_array`).

The parts of an object are its members, each of which takes a draft of the record to the next one
(`Format.Member`) until the record is complete (`Format.Members`, `Format.takes_members`). The order
of the members, members under other names and the white space between them are all left open there.
A member has a name, spelled in one way or another, and a value (`Format.Named`): it fills the field
of that name (`Format.member_of_field`) or, if there is none, nothing (`Format.member_of_stranger`).

An object that was written for a record gives its fields one after another
(`Format.Members.field`), and the record is read back from it (`Format.takes_object`).
-/

namespace QubitRotation.Json

variable {α β δ : Type} {layout : Layout} {before written text rest : List Char}

/-- A layout that puts nothing but white space between the parts of a value. -/
structure Layout.Spaced (layout : Layout) : Prop where
  lineBreak (depth : Nat) : Spaces (layout.lineBreak depth)
  afterColon : Spaces layout.afterColon

theorem Layout.spaced_compact : Layout.compact.Spaced where
  lineBreak _ := spaces_nil
  afterColon := spaces_nil

theorem Layout.spaced_pretty : Layout.pretty.Spaced where
  lineBreak depth := List.forall_mem_cons.mpr
    ⟨rfl, fun c indent => by rw [List.eq_of_mem_replicate indent]; rfl⟩
  afterColon := List.forall_mem_cons.mpr ⟨rfl, nofun⟩

/-! ## Parts in brackets -/

/-- The comma in front of a part, unless it is the first one in its brackets. -/
def separator : (first : Bool) → List Char
  | true => []
  | false => [',']

/-- Parts with commas between them, the first of which may come behind others. -/
def listed (first : Bool) : List (List Char) → List Char
  | [] => []
  | part :: parts => separator first ++ (part ++ listed false parts)

theorem listed_cons (first : Bool) (part : List Char) (parts : List (List Char))
    (rest : List Char) :
    listed first (part :: parts) ++ rest =
      separator first ++ (part ++ (listed false parts ++ rest)) := by
  simp only [listed, List.append_assoc]

theorem intercalate_eq_listed (parts : List (List Char)) :
    [','].intercalate parts = listed true parts := by
  have others (parts : List (List Char)) : parts.flatMap (',' :: ·) = listed false parts := by
    induction parts with
    | nil => rfl
    | cons part parts ih =>
        rw [List.flatMap_cons, ih]
        rfl
  cases parts with
  | nil => rfl
  | cons part parts =>
      rw [List.intercalate_cons_eq, others]
      rfl

/-- Parts that are not empty are fewer than the characters from the opening bracket on. -/
theorem length_listed_lt {parts : List (List Char)} (solid : ∀ part ∈ parts, 1 ≤ part.length)
    (first : Bool) (opening : Char) (rest : List Char) :
    parts.length < (opening :: (listed first parts ++ rest)).length := by
  induction parts generalizing first with
  | nil => simp
  | cons part parts ih =>
      obtain ⟨positive, others⟩ := List.forall_mem_cons.mp solid
      have fewer := ih others false
      simp only [listed_cons, List.length_cons, List.length_append] at fewer ⊢
      omega

/-- What follows a part: the next one behind a comma, or what closes the brackets. -/
theorem Stops.listed (parts : List (List Char)) (stops : Stops rest) :
    Stops (listed false parts ++ rest) := by
  cases parts with
  | nil => exact stops
  | cons part parts => exact stops_cons (.inl rfl) _

theorem Layout.exists_inBrackets_eq (spaced : layout.Spaced) (opening closing : Char) (depth : Nat)
    (parts : List (List Char)) :
    ∃ space, Spaces space ∧ layout.inBrackets opening closing depth parts =
      opening :: (listed true (parts.map (layout.lineBreak (depth + 1) ++ ·)) ++
        (space ++ [closing])) := by
  rw [← intercalate_eq_listed]
  cases parts with
  | nil => exact ⟨[], spaces_nil, rfl⟩
  | cons part parts =>
      refine ⟨layout.lineBreak depth, spaced.lineBreak depth, ?_⟩
      simp [Layout.inBrackets]

/-! ## Arrays -/

/-- A part of an array that holds an item behind white space. -/
def Item (item : Reader α) (part : List Char) (value : α) : Prop :=
  ∃ before written, part = before ++ written ∧ Spaces before ∧ Takes item written value

theorem Item.length_pos {item : Reader α} {part : List Char} {value : α}
    (holds : Item item part value) : 1 ≤ part.length := by
  obtain ⟨before, written, rfl, _, taken⟩ := holds
  obtain ⟨c, rest, rfl, _⟩ := taken.front
  rw [List.length_append, List.length_cons]
  omega

theorem nextItem_closing {space : List Char} (spaces : Spaces space) (first : Bool)
    (rest : List Char) : nextItem first (space ++ ']' :: rest) = .ok (false, rest) := by
  rw [nextItem, skipSpace_front spaces rfl]
  rfl

theorem nextItem_item (spaces : Spaces before) {c : Char} (solid : isSpace c = false)
    (going : c ≠ ']') (first : Bool) (rest : List Char) :
    nextItem first (separator first ++ (before ++ c :: rest)) = .ok (true, c :: rest) := by
  have front : skipSpace (before ++ c :: rest) = _ := skipSpace_front spaces solid rest
  cases first with
  | true => simp only [nextItem, separator, List.nil_append, front, if_true]
  | false =>
      have comma : skipSpace (',' :: (before ++ c :: rest)) = _ := skipSpace_cons rfl _
      simp [nextItem, separator, comma, front, going]

theorem readItems_closing (item : Reader α) {space : List Char} (spaces : Spaces space)
    {bound : List Char} (enough : 0 < bound.length) (first : Bool) (rest : List Char) :
    readItems item bound first (space ++ ']' :: rest) = .ok ([], rest) := by
  cases bound with
  | nil => cases enough
  | cons _ bound => exact bind_eq_of_ok (nextItem_closing spaces first rest) _

theorem readItems_item {item : Reader α} {part more : List Char} {value : α} {values : List α}
    (holds : Item item part value) (stops : Stops more) {bound : List Char} (c : Char)
    (others : readItems item bound false more = .ok (values, rest)) (first : Bool) :
    readItems item (c :: bound) first (separator first ++ (part ++ more)) =
      .ok (value :: values, rest) := by
  obtain ⟨before, written, rfl, spaces, taken⟩ := holds
  obtain ⟨d, tail, rfl, solid, going⟩ := taken.front
  have next : nextItem first (separator first ++ (before ++ d :: tail ++ more)) =
      .ok (true, d :: tail ++ more) := by
    rw [List.append_assoc]
    exact nextItem_item spaces solid going first _
  have read : item (d :: tail ++ more) = .ok (value, more) := taken.read spaces_nil stops
  rw [readItems, bind_eq_of_ok next]
  refine (bind_eq_of_ok read _).trans ?_
  exact bind_eq_of_ok others _

theorem readItems_listed {item : Reader α} {parts : List (List Char)} {values : List α}
    (holds : List.Forall₂ (Item item) parts values) {space : List Char} (spaces : Spaces space)
    (first : Bool) (rest : List Char) {bound : List Char} (enough : parts.length < bound.length) :
    readItems item bound first (listed first parts ++ (space ++ ']' :: rest)) =
      .ok (values, rest) := by
  induction holds generalizing first bound with
  | nil => exact readItems_closing item spaces enough first rest
  | @cons part value parts values holds others ih =>
      cases bound with
      | nil => cases enough
      | cons c bound =>
          have stops : Stops (space ++ ']' :: rest) :=
            (stops_cons (.inr (.inl rfl)) rest).append spaces
          rw [listed_cons]
          exact readItems_item holds (stops.listed parts) c
            (ih false (Nat.lt_of_succ_lt_succ enough)) first

theorem Layout.writeItems_eq_map (layout : Layout) (depth : Nat) (items : List Value) :
    layout.writeItems depth items = items.map (layout.writeAt depth) := by
  induction items with
  | nil => rfl
  | cons item items ih => rw [writeItems, ih, List.map_cons]

/-- Written items are parts that hold them. -/
theorem Layout.items_written (spaced : layout.Spaced) (depth : Nat) {item : Reader α}
    {json : α → Value} (taken : ∀ value, Takes item (layout.writeAt depth (json value)) value)
    (values : List α) :
    List.Forall₂ (Item item)
      ((layout.writeItems depth (values.map json)).map (layout.lineBreak depth ++ ·)) values := by
  rw [writeItems_eq_map, List.map_map, List.map_map, List.forall₂_map_left_iff, List.forall₂_same]
  intro value _
  exact ⟨_, _, rfl, spaced.lineBreak depth, taken value⟩

/-- A list is read from an array with its items in order. -/
theorem takes_array (spaced : layout.Spaced) (depth : Nat) {item : Reader α} {json : α → Value}
    (taken : ∀ value, Takes item (layout.writeAt (depth + 1) (json value)) value)
    (values : List α) :
    Takes (readArray item) (layout.writeAt depth (.array (values.map json))) values := by
  obtain ⟨closing, spaces, written⟩ :=
    layout.exists_inBrackets_eq spaced '[' ']' depth
      (layout.writeItems (depth + 1) (values.map json))
  have holds := layout.items_written spaced (depth + 1) taken values
  rw [Layout.writeAt, written]
  refine ⟨⟨_, _, rfl, by decide, by decide⟩, ?_⟩
  intro space rest outer stops
  rw [List.cons_append, readArray, bind_eq_of_ok (head_array outer _)]
  -- The text from the bracket on bounds the number of items, none of which is empty.
  change readItems item ('[' :: _) true _ = _
  rw [List.append_assoc, List.append_assoc]
  refine readItems_listed holds spaces true rest (length_listed_lt ?_ true '[' _)
  intro part member
  obtain ⟨value, holds⟩ := List.exists_forall₂_iff.mp ⟨values, holds⟩ part member
  exact holds.length_pos

/-! ## Objects -/

namespace Format

variable {format : Format δ α} {draft next : δ} {record : α}

/-- A member of an object, from the quote of its name on, takes one draft to another. -/
def Member (format : Format δ α) (draft : δ) (written : List Char) (next : δ) : Prop :=
  ∃ text, written = '"' :: text ∧ ∀ rest, Stops rest →
    ∃ key more, readText (text ++ rest) = some (key, more) ∧
      format.readMember draft key more = .ok (next, rest)

/-- The members of an object, with white space around them, complete a draft to a record. -/
inductive Members (format : Format δ α) : δ → List (List Char) → α → Prop
  | nil {draft : δ} {record : α} : format.finish draft = .ok record →
      Members format draft [] record
  | cons {draft next : δ} {before written after : List Char} {parts : List (List Char)}
      {record : α} : Spaces before → format.Member draft written next → Spaces after →
      Members format next parts record →
      Members format draft ((before ++ (written ++ after)) :: parts) record

theorem Members.length_pos {parts : List (List Char)}
    (members : format.Members draft parts record) :
    ∀ part ∈ parts, 1 ≤ part.length := by
  induction members with
  | nil => nofun
  | cons _ member _ _ ih =>
      obtain ⟨text, rfl, _⟩ := member
      refine List.forall_mem_cons.mpr ⟨?_, ih⟩
      rw [List.length_append, List.length_append, List.length_cons]
      omega

theorem nextKey_closing {space : List Char} (spaces : Spaces space) (first : Bool)
    (rest : List Char) : nextKey first (space ++ '}' :: rest) = .ok (none, rest) := by
  rw [nextKey, skipSpace_front spaces rfl]
  rfl

theorem nextKey_member {gap : List Char} (gaps : Spaces gap) (spaces : Spaces before)
    {text key more : List Char} (read : readText text = some (key, more)) (first : Bool) :
    nextKey first (gap ++ (separator first ++ (before ++ '"' :: text))) = .ok (some key, more) := by
  cases first with
  | true =>
      have quote : skipSpace (gap ++ (before ++ '"' :: text)) = _ :=
        (skipSpace_append gaps _).trans (skipSpace_front spaces rfl _)
      simp only [nextKey, separator, List.nil_append, quote, if_true]
      change orBroken (readText text) >>= _ = _
      rw [read]
      rfl
  | false =>
      have comma : skipSpace (gap ++ ',' :: (before ++ '"' :: text)) = _ :=
        skipSpace_front gaps rfl _
      have quote : skipSpace (before ++ '"' :: text) = _ := skipSpace_front spaces rfl _
      simp only [nextKey, separator, List.singleton_append, comma, quote,
        if_neg Bool.false_ne_true]
      change orBroken (readText text) >>= _ = _
      rw [read]
      rfl

theorem readMembers_closing {space : List Char} (spaces : Spaces space)
    (finished : format.finish draft = .ok record) {bound : List Char} (enough : 0 < bound.length)
    (first : Bool) (rest : List Char) :
    format.readMembers bound first draft (space ++ '}' :: rest) = .ok (record, rest) := by
  cases bound with
  | nil => cases enough
  | cons c bound =>
      rw [readMembers, bind_eq_of_ok (nextKey_closing spaces first rest)]
      change format.complete draft rest = _
      rw [complete, finished]
      rfl

theorem readMembers_member {gap : List Char} (gaps : Spaces gap) (spaces : Spaces before)
    (member : format.Member draft written next) {more : List Char} (stops : Stops more)
    {bound : List Char} (c : Char)
    (others : format.readMembers bound false next more = .ok (record, rest))
    (first : Bool) :
    format.readMembers (c :: bound) first draft
      (gap ++ (separator first ++ (before ++ (written ++ more)))) = .ok (record, rest) := by
  obtain ⟨text, rfl, taken⟩ := member
  obtain ⟨key, tail, named, read⟩ := taken more stops
  rw [List.cons_append, readMembers, bind_eq_of_ok (nextKey_member gaps spaces named first)]
  exact (bind_eq_of_ok read _).trans others

theorem readMembers_listed {parts : List (List Char)} (members : format.Members draft parts record)
    {gap space : List Char} (gaps : Spaces gap)
    (spaces : Spaces space) (first : Bool) (rest : List Char) {bound : List Char}
    (enough : parts.length < bound.length) :
    format.readMembers bound first draft
      (gap ++ (listed first parts ++ (space ++ '}' :: rest))) = .ok (record, rest) := by
  induction members generalizing gap first bound with
  | nil finished =>
      -- The white space behind the last member runs into that before the bracket.
      have both : Spaces (gap ++ space) := List.forall_mem_append.mpr ⟨gaps, spaces⟩
      change format.readMembers bound first _ (gap ++ (space ++ '}' :: rest)) = _
      rw [← List.append_assoc]
      exact readMembers_closing both finished enough first rest
  | @cons draft next before written after parts record front member back others ih =>
      cases bound with
      | nil => cases enough
      | cons c bound =>
          have stops : Stops (space ++ '}' :: rest) :=
            (stops_cons (.inr (.inr rfl)) rest).append spaces
          rw [listed_cons, List.append_assoc, List.append_assoc]
          exact readMembers_member gaps front member ((stops.listed parts).append back) c
            (ih back false (Nat.lt_of_succ_lt_succ enough)) first

/-- A record is read from an object whose members fill a draft of it. -/
theorem takes_members {parts : List (List Char)} (filled : format.Members format.start parts record)
    {closing : List Char} (spaces : Spaces closing) :
    Takes format.read ('{' :: (listed true parts ++ (closing ++ ['}']))) record := by
  refine ⟨⟨_, _, rfl, by decide, by decide⟩, ?_⟩
  intro space rest outer stops
  rw [List.cons_append, read, bind_eq_of_ok (head_object outer _)]
  change format.readMembers ('{' :: _) true format.start _ = _
  rw [List.append_assoc, List.append_assoc]
  exact readMembers_listed filled spaces_nil spaces true rest
    (length_listed_lt filled.length_pos true '{' _)

/-- A record is read from an object that was written for it. -/
theorem takes_object (spaced : layout.Spaced) (depth : Nat) {members : List (String × Value)}
    (filled : format.Members format.start
      ((layout.writeMembers (depth + 1) members).map (layout.lineBreak (depth + 1) ++ ·)) record) :
    Takes format.read (layout.writeAt depth (.object members)) record := by
  obtain ⟨closing, spaces, written⟩ :=
    layout.exists_inBrackets_eq spaced '{' '}' depth (layout.writeMembers (depth + 1) members)
  rw [Layout.writeAt, written]
  exact takes_members filled spaces

/-! ## Names and values -/

/-- A name in quotes, a colon and a value, with white space around the colon. -/
inductive Named (name : String) (value : List Char) : List Char → Prop
  | intro {label gap space : List Char} : Spells label name.toList → Spaces gap → Spaces space →
      Named name value ('"' :: (label ++ '"' :: (gap ++ ':' :: (space ++ value))))

theorem named_key (spaced : layout.Spaced) (name : String) (value : List Char) :
    Named name value (layout.key name ++ value) := by
  have named : Named name value _ :=
    .intro (spells_escape name.toList) spaces_nil spaced.afterColon
  simpa [Layout.key, writeText] using named

theorem expect_colon {gap : List Char} (gaps : Spaces gap) (rest : List Char) :
    expect ':' (gap ++ ':' :: rest) = .ok ((), rest) := by
  rw [expect, skipSpace_front gaps rfl]
  rfl

/-- Behind its name a member is read from the white space in front of the colon on. -/
theorem member_of_named {name : String} {value : List Char} (named : Named name value written)
    (read : ∀ {gap space rest : List Char}, Spaces gap → Spaces space → Stops rest →
      format.readMember draft name.toList (gap ++ ':' :: (space ++ (value ++ rest))) =
        .ok (next, rest)) :
    format.Member draft written next := by
  obtain ⟨spells, gaps, spaces⟩ := named
  refine ⟨_, rfl, fun rest stops => ⟨name.toList, _, ?_, read gaps spaces stops⟩⟩
  simp only [List.append_assoc, List.cons_append]
  exact readText_spells spells _

/-- A member under the name of a field that the draft does not hold yet. -/
theorem member_of_field {name : String} {value : List Char} (named : Named name value written)
    {field : Field δ} (known : format.fields.find? (·.name == name) = some field)
    (fresh : field.isRead draft = false) (taken : Takes (field.read draft) value next) :
    format.Member draft written next := by
  refine member_of_named named fun gaps spaces stops => ?_
  rw [readMember, String.ofList_toList, known]
  simp only [fresh]
  exact (bind_eq_of_ok (expect_colon gaps _) _).trans (taken.read spaces stops)

/-- A member under the name of no field leaves the draft as it is. -/
theorem member_of_stranger {name : String} {value : List Char} (named : Named name value written)
    (unknown : format.fields.find? (·.name == name) = none) (wellFormed : WellFormed value) :
    format.Member draft written draft := by
  refine member_of_named named fun gaps spaces stops => ?_
  rw [readMember, String.ofList_toList, unknown]
  refine (bind_eq_of_ok (expect_colon gaps _) _).trans ?_
  exact bind_eq_of_ok ((takes_skipValue wellFormed).read spaces stops) _

/-! ## Fields -/

theorem takes_field {name : String} {get : δ → Option β} {set : δ → β → δ} {reader : Reader β}
    {value : β} (taken : Takes reader written value) (draft : δ) :
    Takes ((Field.of name get set reader).read draft) written (set draft value) :=
  taken.bind fun _ => rfl

/-- One more member in front, written in a layout, for a field that the draft does not hold yet. -/
theorem Members.field (spaced : layout.Spaced) {depth : Nat} {name : String} {value : Value}
    {members : List (String × Value)} {get : δ → Option β} {set : δ → β → δ} {reader : Reader β}
    {content : β} (taken : Takes reader (layout.writeAt depth value) content)
    (known : format.fields.find? (·.name == name) = some (.of name get set reader))
    (fresh : (get draft).isSome = false)
    (others : format.Members (set draft content)
      ((layout.writeMembers depth members).map (layout.lineBreak depth ++ ·)) record) :
    format.Members draft
      ((layout.writeMembers depth ((name, value) :: members)).map (layout.lineBreak depth ++ ·))
      record := by
  have member := member_of_field (named_key spaced name _) known fresh (takes_field taken draft)
  have front := Members.cons (spaced.lineBreak depth) member spaces_nil others
  rwa [List.append_nil] at front

end Format

end QubitRotation.Json
