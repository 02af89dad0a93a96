import QubitRotation.Proofs.Shell.Lines
import QubitRotation.Proofs.Shell.Printing

/-!
# Sessions in rounds

A session is a list of completed rounds and an ending. In a round each of the three questions is
asked until a line is not refused (`Exchange`), and what the lines stand for is optimised (`Round`).
The `Ending` is a blank line where a circuit is asked for, or the end of the input at any question.

Two facts meet here. Whatever has been read of a session only counts through the question it leads
to (`Leads`), so the lines of rounds and an ending are answered by their events one after another
(`session_of_rounds`). And under valid settings the lines of every input are those of some rounds
and an ending (`exists_rounds`), since no round lacks a report. `session_reports_rounds` puts both
together for inputs that encode a text, and says what is printed: the text of each round and that of
the ending (`printed_of_rounds`).
-/

namespace QubitRotation.Shell

open Text (Blank)

variable {settings : Settings}

/-! ## From one question to another -/

theorem Transcript.after_append (first second : List Event) (transcript : Transcript) :
    transcript.after (first ++ second) = (transcript.after second).after first := by
  simp only [Transcript.after, List.append_assoc]

/-- Some lines lead from one question to another, whatever lines follow, and these events are
printed meanwhile. -/
def Leads (settings : Settings) (question : Question) (lines : List (List Char))
    (events : List Event) (next : Question) : Prop :=
  ∀ rest, converse settings question (lines.map .ofText ++ rest) =
    (converse settings next rest).after events

theorem Leads.refl (question : Question) : Leads settings question [] [] question :=
  fun _ => rfl

theorem Leads.trans {question middle next : Question} {lines more : List (List Char)}
    {events later : List Event} (first : Leads settings question lines events middle)
    (second : Leads settings middle more later next) :
    Leads settings question (lines ++ more) (events ++ later) next := by
  intro rest
  rw [List.map_append, List.append_assoc, first, second, Transcript.after_append]

/-- One line, from what its answer leads to. -/
theorem leads_of_answer {question next : Question} {line : List Char} {events : List Event}
    (answered : question.answer settings (String.ofList line) = (events, some next)) :
    Leads settings question [line] (.prompt (question.prompt settings) :: events) next := by
  intro rest
  rw [List.map_singleton, List.singleton_append, Line.ofText, converse, answered]

/-! ## Refused lines -/

/-- Lines that are refused one after another, each with what is said about it. -/
structure Refusals (refused : List Char → String → Prop) where
  items : List (List Char × String)
  all_refused : ∀ item ∈ items, refused item.1 item.2

namespace Refusals

variable {refused : List Char → String → Prop}

/-- The lines that are refused. -/
def lines (refusals : Refusals refused) : List (List Char) := refusals.items.map Prod.fst

/-- The prompt is printed for each line, and then a complaint about it. -/
def events (refusals : Refusals refused) (prompt : String) : List Event :=
  refusals.items.flatMap fun item => [.prompt prompt, .complaint item.2]

/-- Refused lines lead back to the question. -/
theorem leads {question : Question} (refusals : Refusals refused)
    (repeats : question.Repeats settings refused) :
    Leads settings question refusals.lines (refusals.events (question.prompt settings))
      question := by
  obtain ⟨items, all⟩ := refusals
  induction items with
  | nil => exact .refl question
  | cons item items ih =>
      obtain ⟨first, others⟩ := List.forall_mem_cons.mp all
      exact (leads_of_answer (repeats _ _ first)).trans (ih others)

/-- Lines begin with those that are refused, up to the first that is not. -/
theorem exists_split (refused : List Char → String → Prop) (lines : List (List Char)) :
    ∃ (refusals : Refusals refused) (rest : List (List Char)), lines = refusals.lines ++ rest ∧
      ∀ line ∈ rest.head?, ∀ complaint, ¬refused line complaint := by
  induction lines with
  | nil => exact ⟨⟨[], nofun⟩, [], rfl, nofun⟩
  | cons line lines ih =>
      by_cases refuse : ∃ complaint, refused line complaint
      · obtain ⟨complaint, first⟩ := refuse
        obtain ⟨⟨items, all⟩, rest, rfl, stop⟩ := ih
        exact ⟨⟨(line, complaint) :: items, List.forall_mem_cons.mpr ⟨first, all⟩⟩, rest, rfl, stop⟩
      · refine ⟨⟨[], nofun⟩, line :: lines, rfl, ?_⟩
        rintro _ ⟨⟩ complaint first
        exact refuse ⟨complaint, first⟩

end Refusals

/-! ## Questions until they are answered -/

/-- The lines at a question up to the first that is not refused, which stands for a value. -/
structure Exchange {α : Type} (refused : List Char → String → Prop)
    (gives : List Char → α → Prop) where
  refusals : Refusals refused
  line : List Char
  value : α
  given : gives line value

/-- The question for a circuit until there is one. -/
abbrev CircuitExchange := Exchange RefusedCircuit GivesCircuit

/-- The question for a cost with a default until there is one. -/
abbrev CostExchange (default : UInt64) := Exchange RefusedCost (GivesCost default)

namespace Exchange

variable {α : Type} {refused : List Char → String → Prop} {gives : List Char → α → Prop}

/-- All lines of the exchange. -/
def lines (exchange : Exchange refused gives) : List (List Char) :=
  exchange.refusals.lines ++ [exchange.line]

/-- The prompt is printed for every line, and complaints about all but the last. -/
def events (exchange : Exchange refused gives) (prompt : String) : List Event :=
  exchange.refusals.events prompt ++ [.prompt prompt]

theorem leads {question next : Question} {events : List Event} (exchange : Exchange refused gives)
    (repeats : question.Repeats settings refused)
    (answered : question.answer settings (String.ofList exchange.line) = (events, some next)) :
    Leads settings question exchange.lines (exchange.events (question.prompt settings) ++ events)
      next := by
  have led := (exchange.refusals.leads repeats).trans (leads_of_answer answered)
  rwa [Exchange.events, List.append_assoc]

end Exchange

/-- The lines at the question for a circuit are all refused, or one of them is blank, or one of them
stands for a circuit, whichever comes first. -/
theorem circuit_lines_cases (lines : List (List Char)) :
    (∃ refusals : Refusals RefusedCircuit, lines = refusals.lines) ∨
    (∃ (refusals : Refusals RefusedCircuit) (line : List Char) (rest : List (List Char)),
      Blank line ∧ lines = refusals.lines ++ line :: rest) ∨
    ∃ (exchange : CircuitExchange) (rest : List (List Char)), lines = exchange.lines ++ rest := by
  obtain ⟨refusals, rest, rfl, stop⟩ := Refusals.exists_split RefusedCircuit lines
  cases rest with
  | nil => exact .inl ⟨refusals, List.append_nil _⟩
  | cons line rest =>
      obtain blank | ⟨circuit, gives⟩ | ⟨complaint, refused⟩ := circuit_cases line
      · exact .inr (.inl ⟨refusals, line, rest, blank, rfl⟩)
      · refine .inr (.inr ⟨⟨refusals, line, circuit, gives⟩, rest, ?_⟩)
        rw [Exchange.lines, List.append_assoc, List.singleton_append]
      · exact absurd refused (stop line rfl complaint)

/-- The lines at the question for a cost are all refused, or one of them stands for a cost. -/
theorem cost_lines_cases (default : UInt64) (lines : List (List Char)) :
    (∃ refusals : Refusals RefusedCost, lines = refusals.lines) ∨
    ∃ (exchange : CostExchange default) (rest : List (List Char)),
      lines = exchange.lines ++ rest := by
  obtain ⟨refusals, rest, rfl, stop⟩ := Refusals.exists_split RefusedCost lines
  cases rest with
  | nil => exact .inl ⟨refusals, List.append_nil _⟩
  | cons line rest =>
      obtain ⟨cost, gives⟩ | ⟨complaint, refused⟩ := cost_cases default line
      · refine .inr ⟨⟨refusals, line, cost, gives⟩, rest, ?_⟩
        rw [Exchange.lines, List.append_assoc, List.singleton_append]
      · exact absurd refused (stop line rfl complaint)

/-! ## Rounds -/

/-- A completed round: the three questions until they are answered, and a report on the circuit
under the costs that were given. -/
structure Round (settings : Settings) where
  rotations : CircuitExchange
  lengthZ : CostExchange settings.costZ
  lengthX : CostExchange settings.costX
  report : Report
  reported : (settings.withCosts lengthZ.value lengthX.value).optimize rotations.value = .ok report

/-- What is printed up to the question for the cost of an X rotation. -/
def openingEvents (settings : Settings) (rotations : CircuitExchange)
    (lengthZ : CostExchange settings.costZ) : List Event :=
  rotations.events (Question.rotations.prompt settings) ++
    lengthZ.events (costPrompt .z settings.costZ)

namespace Round

/-- All lines of a round. -/
def lines (round : Round settings) : List (List Char) :=
  round.rotations.lines ++ round.lengthZ.lines ++ round.lengthX.lines

/-- What is printed in a round. -/
def events (round : Round settings) : List Event :=
  openingEvents settings round.rotations round.lengthZ ++
    (round.lengthX.events (costPrompt .x settings.costX) ++ [.report round.report])

end Round

theorem leads_to_lengthZ (rotations : CircuitExchange) :
    Leads settings .rotations rotations.lines
      (rotations.events (Question.rotations.prompt settings)) (.lengthZ rotations.value) := by
  have led := rotations.leads (repeats_rotations settings) (answer_circuit rotations.given)
  rwa [List.append_nil] at led

theorem leads_to_lengthX (rotations : CircuitExchange) (lengthZ : CostExchange settings.costZ) :
    Leads settings .rotations (rotations.lines ++ lengthZ.lines)
      (openingEvents settings rotations lengthZ) (.lengthX rotations.value lengthZ.value) := by
  have led := lengthZ.leads (repeats_lengthZ settings rotations.value)
    (answer_lengthZ rotations.value lengthZ.given)
  rw [List.append_nil] at led
  exact (leads_to_lengthZ rotations).trans led

/-- A round leads back to its first question. -/
theorem Round.leads (round : Round settings) :
    Leads settings .rotations round.lines round.events .rotations := by
  have led := round.lengthX.leads
    (repeats_lengthX settings round.rotations.value round.lengthZ.value)
    (answer_lengthX round.rotations.value round.lengthZ.value round.lengthX.given)
  rw [Event.ofRound, round.reported] at led
  exact (leads_to_lengthX round.rotations round.lengthZ).trans led

theorem leads_rounds (rounds : List (Round settings)) :
    Leads settings .rotations (rounds.flatMap Round.lines) (rounds.flatMap Round.events)
      .rotations := by
  induction rounds with
  | nil => exact .refl _
  | cons round rounds ih =>
      rw [List.flatMap_cons, List.flatMap_cons]
      exact round.leads.trans ih

/-! ## Endings -/

/-- How a session ends: with a blank line where a circuit is asked for, whatever follows it, or with
the end of the input at one of the questions. -/
inductive Ending (settings : Settings)
  | atBlank (refusals : Refusals RefusedCircuit) (line : List Char) (blank : Blank line)
      (unread : List (List Char))
  | atRotations (refusals : Refusals RefusedCircuit)
  | atLengthZ (rotations : CircuitExchange) (refusals : Refusals RefusedCost)
  | atLengthX (rotations : CircuitExchange) (lengthZ : CostExchange settings.costZ)
      (refusals : Refusals RefusedCost)

namespace Ending

/-- The lines from the last completed round on. -/
def lines : Ending settings → List (List Char)
  | .atBlank refusals line _ unread => refusals.lines ++ line :: unread
  | .atRotations refusals => refusals.lines
  | .atLengthZ rotations refusals => rotations.lines ++ refusals.lines
  | .atLengthX rotations lengthZ refusals => rotations.lines ++ lengthZ.lines ++ refusals.lines

/-- What is printed after the last completed round: no report, and the prompt that finds the end of
the input or is answered by a blank line comes last. -/
def events : Ending settings → List Event
  | .atBlank refusals _ _ _ | .atRotations refusals =>
      refusals.events (Question.rotations.prompt settings) ++
        [.prompt (Question.rotations.prompt settings)]
  | .atLengthZ rotations refusals =>
      rotations.events (Question.rotations.prompt settings) ++
        (refusals.events (costPrompt .z settings.costZ) ++ [.prompt (costPrompt .z settings.costZ)])
  | .atLengthX rotations lengthZ refusals =>
      openingEvents settings rotations lengthZ ++
        (refusals.events (costPrompt .x settings.costX) ++ [.prompt (costPrompt .x settings.costX)])

end Ending

/-- At the end of the input the session ends with one more prompt. -/
theorem converse_of_leads {question next : Question} {lines : List (List Char)}
    {events : List Event} (led : Leads settings question lines events next) :
    converse settings question (lines.map .ofText) =
      { events := events ++ [.prompt (next.prompt settings)] } := by
  have ended := led []
  rwa [List.append_nil] at ended

theorem converse_ending (ending : Ending settings) :
    converse settings .rotations (ending.lines.map .ofText) = { events := ending.events } := by
  cases ending with
  | atBlank refusals line blank unread =>
      -- Nothing is asked after the blank line, so the unread lines drop out.
      rw [Ending.lines, List.map_append, refusals.leads (repeats_rotations settings),
        List.map_cons, Line.ofText, converse, answer_blank blank]
      rfl
  | atRotations refusals => exact converse_of_leads (refusals.leads (repeats_rotations settings))
  | atLengthZ rotations refusals =>
      have led := (leads_to_lengthZ rotations).trans
        (refusals.leads (repeats_lengthZ settings rotations.value))
      rw [Ending.events, ← List.append_assoc]
      exact converse_of_leads led
  | atLengthX rotations lengthZ refusals =>
      have led := (leads_to_lengthX rotations lengthZ).trans
        (refusals.leads (repeats_lengthX settings rotations.value lengthZ.value))
      rw [Ending.events, ← List.append_assoc]
      exact converse_of_leads led

/-! ## Whole sessions -/

/-- What a session prints for the lines of some rounds and an ending. -/
theorem session_of_rounds (rounds : List (Round settings)) (ending : Ending settings) :
    session settings ((rounds.flatMap Round.lines ++ ending.lines).map .ofText) =
      { events := rounds.flatMap Round.events ++ ending.events } := by
  rw [session, List.map_append, leads_rounds rounds, converse_ending ending]
  rfl

theorem Round.lines_ne_nil (round : Round settings) : round.lines ≠ [] := by
  simp [Round.lines, Exchange.lines]

/-- Lines either end the session before a round is completed, or begin with those of a round. -/
theorem ending_or_round (valid : settings.check = .ok ()) (lines : List (List Char))
    (short : ∀ line ∈ lines, line.length < 2 ^ 63) :
    (∃ ending : Ending settings, lines = ending.lines) ∨
    ∃ (round : Round settings) (rest : List (List Char)), lines = round.lines ++ rest := by
  obtain ⟨refusals, rfl⟩ | ⟨refusals, line, unread, blank, rfl⟩ | ⟨rotations, others, rfl⟩ :=
    circuit_lines_cases lines
  · exact .inl ⟨.atRotations refusals, rfl⟩
  · exact .inl ⟨.atBlank refusals line blank unread, rfl⟩
  obtain ⟨refusals, rfl⟩ | ⟨lengthZ, others, rfl⟩ := cost_lines_cases settings.costZ others
  · exact .inl ⟨.atLengthZ rotations refusals, rfl⟩
  obtain ⟨refusals, rfl⟩ | ⟨lengthX, others, rfl⟩ := cost_lines_cases settings.costX others
  · refine .inl ⟨.atLengthX rotations lengthZ refusals, ?_⟩
    rw [Ending.lines, List.append_assoc]
  · have member :
        rotations.line ∈ rotations.lines ++ (lengthZ.lines ++ (lengthX.lines ++ others)) := by
      simp [Exchange.lines]
    obtain ⟨report, reported⟩ :=
      exists_report_of_answers valid rotations.given (short _ member) lengthZ.given lengthX.given
    refine .inr ⟨⟨rotations, lengthZ, lengthX, report, reported⟩, others, ?_⟩
    simp only [Round.lines, List.append_assoc]

/-- Any lines are those of some rounds and an ending. The induction is on their number. -/
theorem exists_rounds (valid : settings.check = .ok ()) (lines : List (List Char))
    (short : ∀ line ∈ lines, line.length < 2 ^ 63) :
    ∃ (rounds : List (Round settings)) (ending : Ending settings),
      lines = rounds.flatMap Round.lines ++ ending.lines := by
  induction known : lines.length using Nat.strongRecOn generalizing lines with
  | _ count ih =>
      obtain ⟨ending, rfl⟩ | ⟨round, rest, rfl⟩ := ending_or_round valid lines short
      · exact ⟨[], ending, rfl⟩
      · -- A round takes a line at least, so fewer are left.
        have fewer : rest.length < count := by
          have some := List.length_pos_iff.mpr round.lines_ne_nil
          rw [List.length_append] at known
          omega
        obtain ⟨rounds, ending, rfl⟩ :=
          ih _ fewer rest (fun line member => short line (List.mem_append_right _ member)) rfl
        refine ⟨round :: rounds, ending, ?_⟩
        rw [List.flatMap_cons, List.append_assoc]

/-! ## Reports -/

@[simp] theorem Refusals.reports {refused : List Char → String → Prop}
    (refusals : Refusals refused) (prompt : String) :
    (refusals.events prompt).filterMap Event.report? = [] := by
  rw [Refusals.events, List.filterMap_flatMap]
  exact List.flatMap_eq_nil_iff.mpr fun _ _ => rfl

@[simp] theorem Exchange.reports {α : Type} {refused : List Char → String → Prop}
    {gives : List Char → α → Prop} (exchange : Exchange refused gives) (prompt : String) :
    (exchange.events prompt).filterMap Event.report? = [] := by
  rw [Exchange.events, List.filterMap_append, Refusals.reports]
  rfl

theorem Round.reports (round : Round settings) :
    round.events.filterMap Event.report? = [round.report] := by
  simp [Round.events, openingEvents, Event.report?]

theorem Ending.reports (ending : Ending settings) :
    ending.events.filterMap Event.report? = [] := by
  cases ending <;> simp [Ending.events, openingEvents, Event.report?]

theorem reports_of_rounds (rounds : List (Round settings)) (ending : Ending settings) :
    (rounds.flatMap Round.events ++ ending.events).filterMap Event.report? =
      rounds.map Round.report := by
  rw [List.filterMap_append, ending.reports, List.append_nil, List.filterMap_flatMap]
  induction rounds with
  | nil => rfl
  | cons round rounds ih =>
      rw [List.flatMap_cons, ih, round.reports, List.map_cons, List.singleton_append]

/-! ## Texts -/

/-- Words and a complaint for every line that is refused. -/
def Refusals.text {refused : List Char → String → Prop} (refusals : Refusals refused)
    (words : String) : String :=
  String.join (refusals.items.map fun item => words ++ complaintLine item.2)

/-- Words for every line, and complaints about all but the last. -/
def Exchange.text {α : Type} {refused : List Char → String → Prop}
    {gives : List Char → α → Prop} (exchange : Exchange refused gives) (words : String) : String :=
  exchange.refusals.text words ++ words

/-- The text up to the question for the cost of an X rotation. -/
def openingText (settings : Settings) (rotations : CircuitExchange)
    (lengthZ : CostExchange settings.costZ) : String :=
  rotations.text rotationsWords ++ lengthZ.text (lengthWords "Z" settings.costZ)

/-- The text of a round: its questions, complaints about what was refused, and the report. -/
def Round.text (round : Round settings) : String :=
  openingText settings round.rotations round.lengthZ ++
    (round.lengthX.text (lengthWords "X" settings.costX) ++ inLines (reportLines round.report))

/-- The text after the last completed round. The words that nothing answers, or only a blank line,
come last. -/
def Ending.text : Ending settings → String
  | .atBlank refusals _ _ _ | .atRotations refusals =>
      refusals.text rotationsWords ++ rotationsWords
  | .atLengthZ rotations refusals =>
      rotations.text rotationsWords ++
        (refusals.text (lengthWords "Z" settings.costZ) ++ lengthWords "Z" settings.costZ)
  | .atLengthX rotations lengthZ refusals =>
      openingText settings rotations lengthZ ++
        (refusals.text (lengthWords "X" settings.costX) ++ lengthWords "X" settings.costX)

theorem Refusals.printed_events {refused : List Char → String → Prop}
    (refusals : Refusals refused) (words : String) :
    printed (refusals.events words) = refusals.text words := by
  have both (item : List Char × String) :
      printed [.prompt words, .complaint item.2] = words ++ complaintLine item.2 := by
    rw [printed_cons, printed_singleton, output_prompt, output_complaint]
  simp only [Refusals.events, Refusals.text, printed_flatMap, both]

theorem Exchange.printed_events {α : Type} {refused : List Char → String → Prop}
    {gives : List Char → α → Prop} (exchange : Exchange refused gives) (words : String) :
    printed (exchange.events words) = exchange.text words := by
  rw [Exchange.events, printed_append, Refusals.printed_events, printed_singleton, output_prompt]
  rfl

theorem printed_openingEvents (rotations : CircuitExchange)
    (lengthZ : CostExchange settings.costZ) :
    printed (openingEvents settings rotations lengthZ) = openingText settings rotations lengthZ := by
  rw [openingEvents, printed_append, Exchange.printed_events, Exchange.printed_events,
    costPrompt_eq_words]
  rfl

theorem Round.printed_events (round : Round settings) : printed round.events = round.text := by
  rw [Round.events, printed_append, printed_append, printed_openingEvents,
    Exchange.printed_events, printed_singleton, output_report, costPrompt_eq_words]
  rfl

/-- Words that complaints lead back to, and once more at the end of the input. -/
theorem Refusals.printed_events_prompt {refused : List Char → String → Prop}
    (refusals : Refusals refused) (words : String) :
    printed (refusals.events words ++ [.prompt words]) = refusals.text words ++ words := by
  rw [printed_append, Refusals.printed_events, printed_singleton, output_prompt]

theorem Ending.printed_events (ending : Ending settings) :
    printed ending.events = ending.text := by
  cases ending with
  | atBlank refusals line blank unread => exact refusals.printed_events_prompt rotationsWords
  | atRotations refusals => exact refusals.printed_events_prompt rotationsWords
  | atLengthZ rotations refusals =>
      rw [Ending.events, printed_append, Refusals.printed_events_prompt, Exchange.printed_events,
        costPrompt_eq_words]
      rfl
  | atLengthX rotations lengthZ refusals =>
      rw [Ending.events, printed_append, Refusals.printed_events_prompt, printed_openingEvents,
        costPrompt_eq_words]
      rfl

theorem printed_of_rounds (rounds : List (Round settings)) (ending : Ending settings) :
    printed (rounds.flatMap Round.events ++ ending.events) =
      String.join (rounds.map Round.text) ++ ending.text := by
  simp only [printed_append, printed_flatMap, Round.printed_events, Ending.printed_events]

/-- A session under valid settings. Whatever text the input encodes, its lines are those of some
completed rounds and of an ending, which is a blank line where a circuit is asked for or the end of
the input. Every prompt, complaint and report is the one that these say: in particular the reports
are those of the rounds, in order, and no optimisation fails. What is printed is the text of the
rounds and that of the ending, and nothing else, and the command succeeds. Lines have fewer than
`2 ^ 63` characters, as any text in the memory of a 64-bit machine does. -/
theorem session_reports_rounds (valid : settings.check = .ok ()) (text : String)
    (short : ∀ line ∈ textLines text.toList, line.length < 2 ^ 63) :
    ∃ (rounds : List (Round settings)) (ending : Ending settings),
      textLines text.toList = rounds.flatMap Round.lines ++ ending.lines ∧
      session settings (linesOf text.toUTF8.data.toList) =
        { events := rounds.flatMap Round.events ++ ending.events } ∧
      (session settings (linesOf text.toUTF8.data.toList)).reports = rounds.map Round.report ∧
      (session settings (linesOf text.toUTF8.data.toList)).output =
        String.join (rounds.map Round.text) ++ ending.text ∧
      (session settings (linesOf text.toUTF8.data.toList)).outcome =
        { exitCode := 0, output := String.join (rounds.map Round.text) ++ ending.text } := by
  obtain ⟨rounds, ending, split⟩ := exists_rounds valid _ short
  have whole : session settings (linesOf text.toUTF8.data.toList) =
      { events := rounds.flatMap Round.events ++ ending.events } := by
    rw [linesOf_toUTF8, split, session_of_rounds]
  have output := printed_of_rounds rounds ending
  refine ⟨rounds, ending, split, whole, ?_⟩
  rw [whole]
  exact ⟨reports_of_rounds rounds ending, output, congrArg (Outcome.mk 0 · "") output⟩

/-- Two rounds with refused lines at every question, blank costs and costs that are spelled, and the
end of the input at the last question of a third round. -/
theorem session_reports_rounds_of_script :
    let settings : Settings := { costZ := 3, costX := 7 }
    let text := "X(ninety)\nX(90),X(90)\nzero\n0\n+4\n \nY(90)\n\n-1\n18446744073709551615\n" ++
      "Z(1)\n5\nsix"
    settings.check = .ok () ∧ (∀ line ∈ textLines text.toList, line.length < 2 ^ 63) ∧
    ∃ (rounds : List (Round settings)) (ending : Ending settings),
      textLines text.toList = rounds.flatMap Round.lines ++ ending.lines ∧
      session settings (linesOf text.toUTF8.data.toList) =
        { events := rounds.flatMap Round.events ++ ending.events } ∧
      rounds.map (fun round => round.report.timing) =
        [⟨0, 1, 0, 7, 7⟩, ⟨2, 1, 6, 18446744073709551615, 18446744073709551615⟩] ∧
      (session settings (linesOf text.toUTF8.data.toList)).output =
        String.join (rounds.map Round.text) ++ ending.text := by
  intro settings text
  have valid : settings.check = .ok () := by decide
  have short : ∀ line ∈ textLines text.toList, line.length < 2 ^ 63 := by decide +kernel
  have timings : (session settings (linesOf text.toUTF8.data.toList)).reports.map Report.timing =
      [⟨0, 1, 0, 7, 7⟩, ⟨2, 1, 6, 18446744073709551615, 18446744073709551615⟩] := by decide +kernel
  obtain ⟨rounds, ending, split, whole, reports, output, _⟩ :=
    session_reports_rounds valid text short
  rw [reports, List.map_map] at timings
  exact ⟨valid, short, rounds, ending, split, whole, timings, output⟩

/-- A round with a line that is refused. -/
example : (session {} [.text "X(90),X(90)\n", .text "0\n", .text "\n", .text "2\n"]).output =
    "Enter a sequence of rotations: Enter the length of the Z gate [1]: " ++
    "error: length must be a positive integer, got \"0\"\n" ++
    "Enter the length of the Z gate [1]: Enter the length of the X gate [1]: \n" ++
    " Optimized circuit with XY: X(180)\n Optimized circuit with XZ: X(180)\n" ++
    " Hardware running time: 2\n\nEnter a sequence of rotations: " := by
  decide +kernel

end QubitRotation.Shell
