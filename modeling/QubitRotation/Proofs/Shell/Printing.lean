import QubitRotation.Proofs.Shell.Answers
import QubitRotation.Shell.Command

/-!
# What a session prints

The text of a session in the terms of its reader: each question has its words (`Question.words`), a
complaint is one line (`complaintLine`), and a report takes five (`reportLines`), with both circuits
in gate notation and the running time in digits. What an event looks like is one of these
(`output_prompt`, `output_complaint`, `output_report`).

`Shows` says of a text that it consists of such parts and which reports are among them, in order.
An answer prints nothing, a complaint or a report (`answer_cases`), so every session shows the
reports among its events (`shows_converse`).
-/

namespace QubitRotation.Shell

variable {settings : Settings}

/-! ## Parts of the text -/

/-- The words of the question for a circuit. -/
def rotationsWords : String := "Enter a sequence of rotations: "

/-- The words of the question for the cost of a rotation, with the default in brackets. -/
def lengthWords (letter : String) (default : UInt64) : String :=
  "Enter the length of the " ++ letter ++ " gate [" ++ toString default.toNat ++ "]: "

/-- The words in front of an answer. -/
def Question.words (settings : Settings) : Question → String
  | rotations => rotationsWords
  | lengthZ _ => lengthWords "Z" settings.costZ
  | lengthX _ _ => lengthWords "X" settings.costX

/-- The line of a complaint. -/
def complaintLine (complaint : String) : String := "error: " ++ complaint ++ "\n"

/-- The lines about a report: both circuits in gate notation and the running time, between two that
are empty. -/
def reportLines (report : Report) : List String :=
  ["",
    " Optimized circuit with XY: " ++ Notation.writeGates report.xy.gates,
    " Optimized circuit with XZ: " ++ Notation.writeGates report.xz.gates,
    " Hardware running time: " ++ toString report.runningTime.toNat,
    ""]

/-- Lines as a text, each with the line feed that ends it. -/
def inLines (lines : List String) : String := String.join (lines.map (· ++ "\n"))

theorem costPrompt_eq_words (axis : Axis) (default : UInt64) :
    costPrompt axis default = lengthWords axis.text default := by
  unfold costPrompt lengthWords
  rfl

theorem prompt_eq_words (question : Question) :
    question.prompt settings = question.words settings := by
  cases question with
  | rotations => rfl
  | lengthZ circuit => exact costPrompt_eq_words .z settings.costZ
  | lengthX circuit costZ => exact costPrompt_eq_words .x settings.costX

theorem output_prompt (words : String) : (Event.prompt words).output = words := rfl

theorem output_complaint (complaint : String) :
    (Event.complaint complaint).output = complaintLine complaint := by
  unfold Event.output complaintLine
  rfl

theorem output_report (report : Report) :
    (Event.report report).output = inLines (reportLines report) := by
  -- Only the first and the last line are cut in another way there.
  have front : "\n Optimized circuit with XY: " = "\n" ++ " Optimized circuit with XY: " := by simp
  have back : "\n\n" = "\n" ++ "\n" := by simp
  have same (text : String) : toString text = text := rfl
  unfold Event.output summary inLines reportLines
  rw [front, back]
  simp only [-String.reduceAppend, same, Circuit.text, List.map_cons, List.map_nil,
    String.join_cons, String.join_nil, String.append_empty, String.empty_append,
    String.append_assoc]

/-! ## Events one after another -/

/-- The text of some events. -/
def printed (events : List Event) : String := String.join (events.map Event.output)

theorem printed_cons (event : Event) (events : List Event) :
    printed (event :: events) = event.output ++ printed events := by
  rw [printed, List.map_cons, String.join_cons]
  rfl

theorem printed_append (first second : List Event) :
    printed (first ++ second) = printed first ++ printed second := by
  rw [printed, List.map_append, String.join_append]
  rfl

theorem printed_flatMap {α : Type} (events : α → List Event) (items : List α) :
    printed (items.flatMap events) = String.join (items.map fun item => printed (events item)) := by
  induction items with
  | nil => rfl
  | cons item items ih =>
      rw [List.flatMap_cons, printed_append, ih, List.map_cons, String.join_cons]

theorem printed_singleton (event : Event) : printed [event] = event.output := by
  rw [printed_cons]
  exact String.append_empty

theorem toList_printed (events : List Event) :
    (printed events).toList = events.flatMap fun event => event.output.toList := by
  rw [printed, String.toList_join, List.flatMap_map]

/-- The report that an event prints. -/
def Event.report? : Event → Option Report
  | report result => some result
  | _ => none

/-- The reports that a session prints. -/
def Transcript.reports (transcript : Transcript) : List Report :=
  transcript.events.filterMap Event.report?

theorem Transcript.output_after (events : List Event) (transcript : Transcript) :
    (transcript.after events).output = printed events ++ transcript.output :=
  printed_append events transcript.events

theorem Transcript.reports_after (events : List Event) (transcript : Transcript) :
    (transcript.after events).reports =
      events.filterMap Event.report? ++ transcript.reports :=
  List.filterMap_append

/-! ## Reports in a text -/

/-- A text that consists of the words of questions, lines of complaints and the lines about some
reports, in order. -/
inductive Shows (settings : Settings) : List Report → String → Prop
  | nothing : Shows settings [] ""
  | words (question : Question) {reports : List Report} {rest : String}
      (later : Shows settings reports rest) :
      Shows settings reports (question.words settings ++ rest)
  | complaint (complaint : String) {reports : List Report} {rest : String}
      (later : Shows settings reports rest) :
      Shows settings reports (complaintLine complaint ++ rest)
  | report (report : Report) {reports : List Report} {rest : String}
      (later : Shows settings reports rest) :
      Shows settings (report :: reports) (inLines (reportLines report) ++ rest)

section Answers

variable {question : Question} {events : List Event} {next? : Option Question}

/-- An answer prints nothing, a complaint or a report. -/
theorem answer_cases {line : String}
    (answered : question.answer settings line = (events, next?)) :
    events = [] ∨ (∃ complaint, events = [.complaint complaint]) ∨
      ∃ report, events = [.report report] := by
  have first : events = (question.answer settings line).1 := by rw [answered]
  have spelled : line = String.ofList line.toList := String.ofList_toList.symm
  rw [first, spelled]
  generalize line.toList = line
  cases question with
  | rotations =>
      obtain blank | ⟨circuit, gives⟩ | ⟨complaint, refused⟩ := circuit_cases line
      · rw [answer_blank blank]
        exact .inl rfl
      · rw [answer_circuit gives]
        exact .inl rfl
      · rw [repeats_rotations settings _ _ refused]
        exact .inr (.inl ⟨complaint, rfl⟩)
  | lengthZ circuit =>
      obtain ⟨cost, gives⟩ | ⟨complaint, refused⟩ := cost_cases settings.costZ line
      · rw [answer_lengthZ circuit gives]
        exact .inl rfl
      · rw [repeats_lengthZ settings circuit _ _ refused]
        exact .inr (.inl ⟨complaint, rfl⟩)
  | lengthX circuit costZ =>
      obtain ⟨cost, gives⟩ | ⟨complaint, refused⟩ := cost_cases settings.costX line
      · rw [answer_lengthX circuit costZ gives, Event.ofRound]
        split
        next report _ => exact .inr (.inr ⟨report, rfl⟩)
        next fault _ => exact .inr (.inl ⟨fault.message, rfl⟩)
      · rw [repeats_lengthX settings circuit costZ _ _ refused]
        exact .inr (.inl ⟨complaint, rfl⟩)

/-- A question and its answer show what the answer prints, in front of what is shown later. -/
theorem Shows.after_answer {line : String} {transcript : Transcript}
    (answered : question.answer settings line = (events, next?))
    (later : Shows settings transcript.reports transcript.output) :
    let more := transcript.after (.prompt (question.prompt settings) :: events)
    Shows settings more.reports more.output := by
  intro more
  rw [Transcript.reports_after, Transcript.output_after, printed_cons, output_prompt,
    prompt_eq_words, String.append_assoc]
  apply Shows.words
  obtain rfl | ⟨complaint, rfl⟩ | ⟨report, rfl⟩ := answer_cases answered
  · exact later
  · rw [printed_singleton, output_complaint]
    exact .complaint complaint later
  · rw [printed_singleton, output_report]
    exact .report report later

end Answers

/-- The text of a session shows the reports among its events. The induction is on the lines. -/
theorem shows_converse (settings : Settings) (question : Question) (lines : List Line) :
    Shows settings (converse settings question lines).reports
      (converse settings question lines).output := by
  have ended (question : Question) :
      Shows settings [] (printed [.prompt (question.prompt settings)]) := by
    rw [printed_cons, output_prompt, prompt_eq_words]
    exact .words question .nothing
  induction lines generalizing question with
  | nil => exact ended question
  | cons line lines ih =>
      cases line with
      | undecodable => exact ended question
      | text line =>
          cases answered : question.answer settings line with
          | mk events next? =>
              rw [converse, answered]
              cases next? with
              | none =>
                  have silent : Shows settings (Transcript.mk [] true).reports
                      (Transcript.mk [] true).output := .nothing
                  have last := silent.after_answer answered
                  rwa [Transcript.after, List.append_nil] at last
              | some next => exact (ih next).after_answer answered

end QubitRotation.Shell
