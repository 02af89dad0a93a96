import QubitRotation.Json.Model
import QubitRotation.Proofs.Json.Number
import QubitRotation.Proofs.Json.Text

/-!
# Values that are taken from the front of a text

A reader `Takes` a value from what has been written for it if it does so behind white space and in
front of whatever may follow a value. Every reader looks at the head of the value first, so the
scalars come from two facts about heads, one for strings and one for numbers (`takes_text`,
`takes_integer`), and what a reader does with a head it has taken (`Takes.bind`).
-/

namespace QubitRotation.Json

/-- White space and nothing else. -/
def Spaces (text : List Char) : Prop := ∀ c ∈ text, isSpace c = true

instance : DecidablePred Spaces := fun text =>
  decidable_of_iff (text.all isSpace = true) List.all_eq_true

/-- What may follow a value: nothing, or something that begins with white space, a comma or a
closing bracket. -/
def Stops (rest : List Char) : Prop :=
  ∀ c ∈ rest.head?, isSpace c = true ∨ c = ',' ∨ c = ']' ∨ c = '}'

/-- A reader takes a value from the front of every text that begins with what was written for it,
up to white space. -/
structure Takes {α : Type} (reader : Reader α) (written : List Char) (value : α) : Prop where
  front : ∃ c rest, written = c :: rest ∧ isSpace c = false ∧ c ≠ ']'
  read {space rest : List Char} : Spaces space → Stops rest →
    reader (space ++ (written ++ rest)) = .ok (value, rest)

variable {α β : Type} {space rest written : List Char}

/-! ## White space -/

theorem isSpace_iff {c : Char} :
    isSpace c = true ↔ c = ' ' ∨ c = '\n' ∨ c = '\t' ∨ c = '\r' := by
  simp only [isSpace, Bool.or_eq_true, beq_iff_eq, or_assoc]

theorem spaces_nil : Spaces [] := nofun

theorem skipSpace_append (spaces : Spaces space) (text : List Char) :
    skipSpace (space ++ text) = skipSpace text :=
  List.dropWhile_append_of_pos spaces

theorem skipSpace_cons {c : Char} (solid : isSpace c = false) (rest : List Char) :
    skipSpace (c :: rest) = c :: rest :=
  List.dropWhile_cons_of_neg (by simp [solid])

theorem skipSpace_front (spaces : Spaces space) {c : Char} (solid : isSpace c = false)
    (rest : List Char) : skipSpace (space ++ c :: rest) = c :: rest := by
  rw [skipSpace_append spaces, skipSpace_cons solid]

theorem stops_nil : Stops [] := nofun

theorem stops_cons {c : Char} (stop : c = ',' ∨ c = ']' ∨ c = '}') (rest : List Char) :
    Stops (c :: rest) := by
  rintro _ ⟨⟩
  exact .inr stop

theorem Stops.append (spaces : Spaces space) (stops : Stops rest) : Stops (space ++ rest) := by
  cases space with
  | nil => exact stops
  | cons c space =>
      rintro _ ⟨⟩
      exact .inl (spaces c List.mem_cons_self)

/-- What follows a value does not continue a number. -/
theorem Stops.ends (stops : Stops rest) : Literal.Ends rest := by
  intro c first
  obtain space | rfl | rfl | rfl := stops c first
  · obtain rfl | rfl | rfl | rfl := isSpace_iff.mp space <;> decide
  all_goals decide

/-! ## Readers one after another -/

theorem bind_eq_of_ok {reader : Reader α} {text : List Char} {value : α}
    (taken : reader text = .ok (value, rest)) (next : α → Reader β) :
    (reader >>= next) text = next value rest := by
  change reader text >>= (fun step => next step.1 step.2) = _
  rw [taken]
  rfl

/-- What comes after a value has been taken, if it takes nothing more. -/
theorem Takes.bind {reader : Reader α} {value : α} {next : α → Reader β} {result : β}
    (taken : Takes reader written value)
    (goesOn : ∀ rest, next value rest = .ok (result, rest)) :
    Takes (reader >>= next) written result where
  front := taken.front
  read spaces stops := (bind_eq_of_ok (taken.read spaces stops) next).trans (goesOn _)

/-! ## Heads -/

theorem head_array (spaces : Spaces space) (rest : List Char) :
    head (space ++ '[' :: rest) = .ok (.array, rest) := by
  rw [head, skipSpace_front spaces rfl]
  rfl

theorem head_object (spaces : Spaces space) (rest : List Char) :
    head (space ++ '{' :: rest) = .ok (.object, rest) := by
  rw [head, skipSpace_front spaces rfl]
  rfl

theorem takes_text (text : List Char) : Takes head (writeText text) (.text text) where
  front := ⟨'"', text.flatMap escape ++ ['"'], rfl, by decide, by decide⟩
  read {space rest} spaces _ := by
    have split : writeText text ++ rest = '"' :: (text.flatMap escape ++ '"' :: rest) := by
      simp [writeText]
    rw [split, head, skipSpace_front spaces rfl]
    change orBroken (readText _) >>= _ = _
    rw [readText_spells (spells_escape text)]
    rfl

theorem takes_truth (value : Bool) : Takes head (toString value).toList (.bool value) := by
  cases value with
  | false =>
      refine ⟨⟨'f', ['a', 'l', 's', 'e'], rfl, by decide, by decide⟩, ?_⟩
      intro space rest spaces _
      change head (space ++ 'f' :: 'a' :: 'l' :: 's' :: 'e' :: rest) = _
      rw [head, skipSpace_front spaces rfl]
      rfl
  | true =>
      refine ⟨⟨'t', ['r', 'u', 'e'], rfl, by decide, by decide⟩, ?_⟩
      intro space rest spaces _
      change head (space ++ 't' :: 'r' :: 'u' :: 'e' :: rest) = _
      rw [head, skipSpace_front spaces rfl]
      rfl

/-- Integers begin with a digit or a minus sign. -/
theorem exists_writeInteger_eq (value : Int) :
    ∃ c rest, writeInteger value = c :: rest ∧ (c.isDigit = true ∨ c = '-') :=
  (Literal.written_toString value).exists_eq

theorem isSpace_eq_false {c : Char} (numeral : c.isDigit = true ∨ c = '-') : isSpace c = false := by
  rw [← Bool.not_eq_true]
  intro space
  obtain rfl | rfl | rfl | rfl := isSpace_iff.mp space <;> exact absurd numeral (by decide)

/-- A value that begins with a digit or a minus sign is a number. -/
theorem head_number (spaces : Spaces space) {c : Char} (numeral : c.isDigit = true ∨ c = '-')
    (rest : List Char) : head (space ++ c :: rest) = numberHead (c :: rest) := by
  rw [head, skipSpace_front spaces (isSpace_eq_false numeral)]
  split
  case h_7 => rfl
  all_goals
    next other =>
      obtain ⟨rfl, _⟩ := List.cons_eq_cons.mp other
      exact absurd numeral (by decide)

/-- The integers that fit in 64 bits, signed or unsigned, are read as integers. -/
theorem takes_integer {value : Int} (low : Numeral.Range.signed.least ≤ value)
    (high : value ≤ Numeral.Range.unsigned.greatest) :
    Takes head (writeInteger value) (.number (.integer value)) := by
  obtain ⟨c, digits, written, numeral⟩ := exists_writeInteger_eq value
  refine ⟨⟨c, digits, written, isSpace_eq_false numeral, ?_⟩, ?_⟩
  · rintro rfl
    exact absurd numeral (by decide)
  · intro space rest spaces stops
    have scanned : Literal.scan (writeInteger value ++ rest) = some (Literal.ofInt value, rest) :=
      (Literal.written_toString value).scan stops.ends
    rw [written] at scanned ⊢
    rw [List.cons_append, head_number spaces numeral, numberHead, ← List.cons_append, scanned]
    change orBroken (Literal.ofInt value).value? >>= _ = _
    rw [Literal.value?_ofInt low high]
    rfl

/-! ## Scalars -/

theorem takes_readInteger {range : Numeral.Range} {value : Int} (wanted : String)
    (taken : Takes head written (.number (.integer value))) (low : range.least ≤ value)
    (high : value ≤ range.greatest) : Takes (readInteger range wanted) written value :=
  taken.bind fun rest => by
    change (if _ then _ else _ : Reader Int) rest = _
    rw [if_pos ⟨low, high⟩]
    rfl

theorem takes_int64 (value : Int64) : Takes readInt64 (writeInteger value.toInt) value := by
  have low : Numeral.Range.signed.least ≤ value.toInt := value.minValue_le_toInt
  have high : value.toInt ≤ Numeral.Range.signed.greatest := value.toInt_le
  have below : value.toInt ≤ Numeral.Range.unsigned.greatest := Int.le_trans high (by decide)
  refine (takes_readInteger "i64" (takes_integer low below) low high).bind fun rest => ?_
  rw [Int64.ofInt_toInt]
  rfl

/-- Numbers without a sign are read as long as they fit in 64 bits. -/
theorem takes_unsigned {n : Nat} (fits : n < UInt64.size) (wanted : String) :
    Takes (readInteger .unsigned wanted) (writeInteger n) n := by
  have low : (0 : Int) ≤ n := Int.natCast_nonneg n
  have high : (n : Int) ≤ Numeral.Range.unsigned.greatest := by
    change (n : Int) ≤ (UInt64.size : Int) - 1
    omega
  exact takes_readInteger wanted (takes_integer (Int.le_trans (by decide) low) high) low high

theorem takes_uint64 (word : UInt64) (wanted : String) :
    Takes (readUInt64 wanted) (writeInteger word.toNat) word :=
  (takes_unsigned word.toNat_lt_size wanted).bind fun rest => by
    rw [Int.toNat_natCast, UInt64.ofNat_toNat]
    rfl

theorem takes_count {count : Nat} (fits : count < UInt64.size) :
    Takes readCount (writeInteger count) count :=
  (takes_unsigned fits "usize").bind fun _ => rfl

theorem takes_bool (value : Bool) : Takes readBool (toString value).toList value :=
  (takes_truth value).bind fun _ => rfl

theorem takes_string (text : String) : Takes readString (writeText text.toList) text :=
  (takes_text text.toList).bind fun rest => by
    change Except.ok (String.ofList text.toList, rest) = _
    rw [String.ofList_toList]

theorem takes_string? (text : String) : Takes readString? (writeText text.toList) (some text) :=
  (takes_text text.toList).bind fun rest => by
    change Except.ok (some (String.ofList text.toList), rest) = _
    rw [String.ofList_toList]

theorem takes_variant {known : List (String × α)} {name : String} {member : α}
    (found : known.lookup name = some member) :
    Takes (readVariant known) (writeText name.toList) member :=
  (takes_text name.toList).bind fun rest => by
    change pick known name.toList rest = _
    rw [pick, String.ofList_toList, found]
    rfl

end QubitRotation.Json
