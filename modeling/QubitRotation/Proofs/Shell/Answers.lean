import QubitRotation.Proofs.Notation
import QubitRotation.Proofs.Optimization.Report
import QubitRotation.Shell.Session

/-!
# Answers

What a line amounts to as an answer to a question, said of the line alone. A line ends the session,
stands for a circuit or is refused where a circuit is asked for (`circuit_cases`); it stands for a
cost or is refused where a cost is asked for (`cost_cases`). The session does with a line what these
say.

Under valid settings no cost that is taken is zero, and no circuit that is read has too many gates,
so there is a report on every circuit that is accepted (`exists_report_of_answers`).
-/

namespace QubitRotation.Shell

open Text (Blank)
open Numeral (Spells)

variable {settings : Settings} {line : List Char} {complaint : String}

/-- A question that complains about every line that is refused and is then asked again. -/
def Question.Repeats (settings : Settings) (question : Question)
    (refused : List Char → String → Prop) : Prop :=
  ∀ line complaint, refused line complaint →
    question.answer settings (String.ofList line) = ([.complaint complaint], some question)

/-! ## Answers to the question for a circuit -/

/-- A line that stands for a circuit. -/
def GivesCircuit (line : List Char) (circuit : Circuit) : Prop :=
  ¬Blank line ∧ Circuit.parse (String.ofList (Text.trim line)) = .ok circuit

/-- A line that stands for no circuit, and what is said about it. -/
def RefusedCircuit (line : List Char) (complaint : String) : Prop :=
  ¬Blank line ∧ ∃ fault, Circuit.parse (String.ofList (Text.trim line)) = .error fault ∧
    complaint = fault.message

theorem circuit_cases (line : List Char) :
    Blank line ∨ (∃ circuit, GivesCircuit line circuit) ∨
      ∃ complaint, RefusedCircuit line complaint := by
  by_cases blank : Blank line
  · exact .inl blank
  · cases parsed : Circuit.parse (String.ofList (Text.trim line)) with
    | ok circuit => exact .inr (.inl ⟨circuit, blank, parsed⟩)
    | error fault => exact .inr (.inr ⟨_, blank, fault, parsed, rfl⟩)

theorem isEmpty_trim_of_filled (filled : ¬Blank line) : (Text.trim line).isEmpty = false := by
  rwa [List.isEmpty_eq_false_iff, ne_eq, Text.trim_eq_nil_iff]

theorem answer_blank (blank : Blank line) :
    Question.rotations.answer settings (String.ofList line) = ([], none) := by
  rw [Question.answer, String.toList_ofList, Text.trim_eq_nil_iff.mpr blank]
  rfl

theorem answer_circuit {circuit : Circuit} (gives : GivesCircuit line circuit) :
    Question.rotations.answer settings (String.ofList line) = ([], some (.lengthZ circuit)) := by
  obtain ⟨filled, parsed⟩ := gives
  simp only [Question.answer, String.toList_ofList, isEmpty_trim_of_filled filled, parsed,
    if_neg Bool.false_ne_true]

theorem repeats_rotations (settings : Settings) :
    Question.rotations.Repeats settings RefusedCircuit := by
  rintro line _ ⟨filled, fault, parsed, rfl⟩
  simp only [Question.answer, String.toList_ofList, isEmpty_trim_of_filled filled, parsed,
    if_neg Bool.false_ne_true]

/-! ## Answers to the questions for costs -/

/-- A line that stands for a cost: a blank one for the default, any other for the positive number
that it spells. -/
inductive GivesCost (default : UInt64) (line : List Char) : UInt64 → Prop
  | blank : Blank line → GivesCost default line default
  | number {cost : UInt64} : Spells (Text.trim line) cost.toNat → cost ≠ 0 →
      GivesCost default line cost

/-- A line that stands for no cost, and what is said about it. -/
def RefusedCost (line : List Char) (complaint : String) : Prop :=
  ¬Blank line ∧ (∀ cost : UInt64, cost ≠ 0 → ¬Spells (Text.trim line) cost.toNat) ∧
  complaint =
    s!"length must be a positive integer, got {String.ofList (Text.quoted (Text.trim line))}"

/-- Positive numbers are spelled without a minus sign. -/
theorem readUInt64_eq_ok_iff_of_ne_zero {text : List Char} {cost : UInt64} (charged : cost ≠ 0) :
    Numeral.readUInt64 text = .ok cost ↔ Spells text cost.toNat := by
  rw [Numeral.readUInt64_eq_ok_iff, and_iff_left_iff_imp]
  intro spells minus
  obtain ⟨digits, rfl⟩ := List.head?_eq_some_iff.mp minus
  obtain ⟨_, value⟩ := Numeral.spells_minus_iff.mp spells
  rw [Numeral.withSign_true] at value
  have zero : cost.toNat = 0 := by omega
  exact charged (UInt64.toNat_inj.mp zero)

/-- A line that is not blank is refused exactly if no number but zero can be read from it. -/
theorem refusedCost_iff : RefusedCost line complaint ↔
    ¬Blank line ∧ (Numeral.readUInt64 (Text.trim line)).toOption.all (· = 0) = true ∧
    complaint =
    s!"length must be a positive integer, got {String.ofList (Text.quoted (Text.trim line))}" := by
  have numberless : (∀ cost : UInt64, cost ≠ 0 → ¬Spells (Text.trim line) cost.toNat) ↔
      (Numeral.readUInt64 (Text.trim line)).toOption.all (· = 0) = true := by
    rw [Option.all_eq_true]
    apply forall_congr'
    intro cost
    rw [← Option.mem_def, Except.mem_toOption_iff, decide_eq_true_iff]
    constructor
    · intro none read
      by_contra charged
      exact none charged ((readUInt64_eq_ok_iff_of_ne_zero charged).mp read)
    · intro zero charged spells
      exact charged (zero ((readUInt64_eq_ok_iff_of_ne_zero charged).mpr spells))
  rw [RefusedCost, numberless]

theorem readCost_blank (default : UInt64) (blank : Blank line) :
    readCost default (Text.trim line) = .ok default := by
  rw [readCost, Text.trim_eq_nil_iff.mpr blank]
  rfl

theorem readCost_number (default : UInt64) {cost : UInt64}
    (spells : Spells (Text.trim line) cost.toNat) (charged : cost ≠ 0) :
    readCost default (Text.trim line) = .ok cost := by
  have read := (readUInt64_eq_ok_iff_of_ne_zero charged).mpr spells
  have filled : ¬Blank line := fun blank => spells.ne_nil (Text.trim_eq_nil_iff.mpr blank)
  simp only [readCost, isEmpty_trim_of_filled filled, read, if_neg charged,
    if_neg Bool.false_ne_true]

theorem readCost_of_gives {default cost : UInt64} (gives : GivesCost default line cost) :
    readCost default (Text.trim line) = .ok cost := by
  cases gives with
  | blank blank => exact readCost_blank _ blank
  | number spells charged => exact readCost_number default spells charged

theorem readCost_of_refused (default : UInt64) (refused : RefusedCost line complaint) :
    readCost default (Text.trim line) = .error complaint := by
  obtain ⟨filled, numberless, rfl⟩ := refused
  simp only [readCost, isEmpty_trim_of_filled filled, if_neg Bool.false_ne_true]
  split
  next cost read =>
    split
    next => rfl
    next charged =>
      exact absurd ((readUInt64_eq_ok_iff_of_ne_zero charged).mp read) (numberless cost charged)
  next => rfl

theorem cost_cases (default : UInt64) (line : List Char) :
    (∃ cost, GivesCost default line cost) ∨ ∃ complaint, RefusedCost line complaint := by
  by_cases blank : Blank line
  · exact .inl ⟨default, .blank blank⟩
  by_cases number : ∃ cost : UInt64, cost ≠ 0 ∧ Spells (Text.trim line) cost.toNat
  · obtain ⟨cost, charged, spells⟩ := number
    exact .inl ⟨cost, .number spells charged⟩
  · refine .inr ⟨_, blank, ?_, rfl⟩
    intro cost charged spells
    exact number ⟨cost, charged, spells⟩

theorem GivesCost.ne_zero {default cost : UInt64} (gives : GivesCost default line cost)
    (charged : default ≠ 0) : cost ≠ 0 := by
  cases gives with
  | blank => exact charged
  | number _ positive => exact positive

theorem answer_lengthZ (circuit : Circuit) {cost : UInt64}
    (gives : GivesCost settings.costZ line cost) :
    (Question.lengthZ circuit).answer settings (String.ofList line) =
      ([], some (.lengthX circuit cost)) := by
  rw [Question.answer, String.toList_ofList, readCost_of_gives gives]

theorem repeats_lengthZ (settings : Settings) (circuit : Circuit) :
    (Question.lengthZ circuit).Repeats settings RefusedCost := by
  intro line complaint refused
  rw [Question.answer, String.toList_ofList, readCost_of_refused _ refused]

theorem answer_lengthX (circuit : Circuit) (costZ : UInt64) {cost : UInt64}
    (gives : GivesCost settings.costX line cost) :
    (Question.lengthX circuit costZ).answer settings (String.ofList line) =
      ([.ofRound settings circuit costZ cost], some .rotations) := by
  rw [Question.answer, String.toList_ofList, readCost_of_gives gives]

theorem repeats_lengthX (settings : Settings) (circuit : Circuit) (costZ : UInt64) :
    (Question.lengthX circuit costZ).Repeats settings RefusedCost := by
  intro line complaint refused
  rw [Question.answer, String.toList_ofList, readCost_of_refused _ refused]

/-! ## Reports on accepted circuits -/

/-- A line is longer than what its circuit is replaced by is: a gate takes four characters and is
replaced by at most three gates. -/
theorem GivesCircuit.length_expandAll_le {circuit : Circuit} (gives : GivesCircuit line circuit) :
    (Reduction.expandAll circuit.gates).length ≤ line.length := by
  obtain ⟨gates, read, rfl⟩ := Except.map_eq_ok_iff.mp gives.2
  rw [Notation.readGates, String.toList_ofList] at read
  have characters := Notation.length_le_of_readPieces read
  have trimmed := Text.length_trim_le line
  have replaced := Reduction.length_expandAll gates
  have some : Reduction.countY gates ≤ gates.length := List.countP_le_length
  rw [Circuit.ofGates_gates]
  omega

/-- There is a report on every circuit that is accepted, under any costs that are. -/
theorem exists_report_of_answers (valid : settings.check = .ok ()) {circuit : Circuit}
    {costZ costX : UInt64} {lineZ lineX : List Char} (rotations : GivesCircuit line circuit)
    (short : line.length < 2 ^ 63) (lengthZ : GivesCost settings.costZ lineZ costZ)
    (lengthX : GivesCost settings.costX lineX costX) :
    ∃ report, (settings.withCosts costZ costX).optimize circuit = .ok report := by
  obtain ⟨chargedZ, chargedX, positive⟩ := Settings.check_eq_ok_iff.mp valid
  obtain ⟨report, reported, _⟩ :=
    @Settings.exists_report (settings.withCosts costZ costX) circuit (lengthZ.ne_zero chargedZ)
      (lengthX.ne_zero chargedX) positive
      (Nat.lt_of_le_of_lt rotations.length_expandAll_le short) 0
  exact ⟨report, reported⟩

end QubitRotation.Shell
