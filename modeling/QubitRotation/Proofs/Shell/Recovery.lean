import QubitRotation.Proofs.Shell.Session

/-!
# Recovering from lines that are refused

A line that is refused leaves the session where it was: the question is asked again, with the
answers that it has got in this round. So refused lines may be put into an input wherever a question
reads a line, as many as there may be, and the rest of the session does not notice.

`Interrupted` follows a session through an input and says where lines are put in, `Interspersed`
says the same of what is printed, and `interspersed_converse` takes one to the other, line by line.
Each line that is put in adds the prompt and a complaint and no report, to the events and to the
text of the session (`refused_lines_change_no_report`).
-/

namespace QubitRotation.Shell

variable {settings : Settings}

/-! ## Lists with blocks put in -/

/-- The last list is the first one with some blocks put in, in order and each at any place. -/
inductive Interspersed {α : Type} : List α → List (List α) → List α → Prop
  | rest (items : List α) : Interspersed items [] items
  | put (block : List α) {items extended : List α} {blocks : List (List α)}
      (later : Interspersed items blocks extended) :
      Interspersed items (block :: blocks) (block ++ extended)
  | keep (item : α) {items extended : List α} {blocks : List (List α)}
      (later : Interspersed items blocks extended) :
      Interspersed (item :: items) blocks (item :: extended)

namespace Interspersed

variable {α β : Type} {items extended : List α} {blocks : List (List α)}

theorem append_left (front : List α) (later : Interspersed items blocks extended) :
    Interspersed (front ++ items) blocks (front ++ extended) := by
  induction front with
  | nil => exact later
  | cons item front ih => exact .keep item ih

/-- What no block contributes to is not changed by blocks. -/
theorem filterMap_eq {f : α → Option β} (interspersed : Interspersed items blocks extended)
    (silent : ∀ block ∈ blocks, block.filterMap f = []) :
    extended.filterMap f = items.filterMap f := by
  induction interspersed with
  | rest => rfl
  | put block _ ih =>
      obtain ⟨first, others⟩ := List.forall_mem_cons.mp silent
      rw [List.filterMap_append, first, List.nil_append, ih others]
  | keep item _ ih => rw [List.filterMap_cons, List.filterMap_cons, ih silent]

/-- If each item stands for a list, the lists of the blocks are put in. -/
theorem flatMap (interspersed : Interspersed items blocks extended) (f : α → List β) :
    Interspersed (items.flatMap f) (blocks.map (List.flatMap f)) (extended.flatMap f) := by
  induction interspersed with
  | rest items => exact .rest _
  | put block _ ih =>
      rw [List.flatMap_append]
      exact .put _ ih
  | keep item _ ih =>
      rw [List.flatMap_cons, List.flatMap_cons]
      exact ih.append_left (f item)

end Interspersed

/-! ## Refused lines put into an input -/

/-- A line that a question refuses, and what is said about it: at the question for a circuit one
that is neither blank nor stands for a circuit, at the questions for a cost one that is neither
blank nor spells a positive number of 64 bits. -/
def Question.Refuses : Question → List Char → String → Prop
  | .rotations => RefusedCircuit
  | .lengthZ _ | .lengthX _ _ => RefusedCost

theorem Question.repeats_refuses (settings : Settings) (question : Question) :
    question.Repeats settings question.Refuses := by
  cases question with
  | rotations => exact repeats_rotations settings
  | lengthZ circuit => exact repeats_lengthZ settings circuit
  | lengthX circuit costZ => exact repeats_lengthX settings circuit costZ

/-- One line to be put in: the question that refuses it, its text up to the line feed, and what is
said about it. -/
structure Interjection where
  question : Question
  body : List Char
  complaint : String
  plain : '\n' ∉ body
  refused : question.Refuses (body ++ ['\n']) complaint

namespace Interjection

/-- The line as it stands in the input. -/
def bytes (interjection : Interjection) : List UInt8 :=
  (interjection.body ++ ['\n']).flatMap String.utf8EncodeChar

/-- What the line adds to what is printed: the prompt once more, and a complaint. -/
def events (settings : Settings) (interjection : Interjection) : List Event :=
  [.prompt (interjection.question.prompt settings), .complaint interjection.complaint]

/-- What the line adds to the text: the words of the question once more, and one line with a
complaint. -/
def text (settings : Settings) (interjection : Interjection) : String :=
  interjection.question.words settings ++ complaintLine interjection.complaint

theorem printed_events (settings : Settings) (interjection : Interjection) :
    printed (interjection.events settings) = interjection.text settings := by
  rw [events, printed_cons, printed_singleton, output_prompt, output_complaint, prompt_eq_words]
  rfl

theorem terminated (interjection : Interjection) : Terminated interjection.bytes :=
  terminated_flatMap interjection.plain

end Interjection

/-- The last input is the first one with refused lines put in, where a session that goes on from the
question reads them: before a line that is read, or at the end. The session follows the lines of the
first input from question to question, and where it ends nothing is put in any more. -/
inductive Interrupted (settings : Settings) :
    Question → List (List UInt8) → List Interjection → List (List UInt8) → Prop
  | rest (question : Question) (lines : List (List UInt8)) :
      Interrupted settings question lines [] lines
  | put (interjection : Interjection) {lines extended : List (List UInt8)}
      {added : List Interjection}
      (later : Interrupted settings interjection.question lines added extended) :
      Interrupted settings interjection.question lines (interjection :: added)
        (interjection.bytes :: extended)
  | read {question next : Question} {line : List UInt8} {text : String} {events : List Event}
      {lines extended : List (List UInt8)} {added : List Interjection}
      (decoded : Line.ofBytes line = .text text)
      (answered : question.answer settings text = (events, some next))
      (later : Interrupted settings next lines added extended) :
      Interrupted settings question (line :: lines) added (line :: extended)

section Interrupted

variable {question : Question} {script extended : List (List UInt8)} {added : List Interjection}

theorem Interrupted.terminated (interrupted : Interrupted settings question script added extended)
    (ended : ∀ line ∈ script, Terminated line) : ∀ line ∈ extended, Terminated line := by
  induction interrupted with
  | rest => exact ended
  | put interjection _ ih => exact List.forall_mem_cons.mpr ⟨interjection.terminated, ih ended⟩
  | read _ _ _ ih =>
      obtain ⟨first, others⟩ := List.forall_mem_cons.mp ended
      exact List.forall_mem_cons.mpr ⟨first, ih others⟩

/-! ## Sessions with interruptions -/

/-- One refused line: the prompt, the complaint, and the session from the same question on. -/
theorem converse_interjection (interjection : Interjection) (lines : List Line) :
    converse settings interjection.question (Line.ofBytes interjection.bytes :: lines) =
      (converse settings interjection.question lines).after (interjection.events settings) := by
  have repeated :=
    interjection.question.repeats_refuses settings _ _ interjection.refused
  rw [Interjection.bytes, ofBytes_flatMap]
  exact leads_of_answer repeated lines

/-- What is printed differs by what the refused lines add, and the input can be decoded as far as
it could before. The induction is on how the lines were put in. -/
theorem interspersed_converse (interrupted : Interrupted settings question script added extended) :
    Interspersed (converse settings question (script.map Line.ofBytes)).events
        (added.map (Interjection.events settings))
        (converse settings question (extended.map Line.ofBytes)).events ∧
      (converse settings question (extended.map Line.ofBytes)).decodable =
        (converse settings question (script.map Line.ofBytes)).decodable := by
  induction interrupted with
  | rest => exact ⟨.rest _, rfl⟩
  | put interjection _ ih =>
      obtain ⟨interspersed, decodable⟩ := ih
      rw [List.map_cons, List.map_cons, converse_interjection]
      exact ⟨.put _ interspersed, decodable⟩
  | @read question next line text events lines extended added decoded answered _ ih =>
      obtain ⟨interspersed, decodable⟩ := ih
      -- The same line leads both sessions on, whatever lines follow it.
      have led (rest : List Line) : converse settings question (Line.ofBytes line :: rest) =
          (converse settings next rest).after (.prompt (question.prompt settings) :: events) := by
        rw [decoded, converse, answered]
      rw [List.map_cons, List.map_cons, led, led]
      exact ⟨interspersed.append_left _, decodable⟩

end Interrupted

theorem reports_of_interspersed {script extended : Transcript} {added : List Interjection}
    (interspersed : Interspersed script.events (added.map (Interjection.events settings))
      extended.events) : extended.reports = script.reports := by
  apply interspersed.filterMap_eq
  intro block member
  obtain ⟨interjection, _, rfl⟩ := List.mem_map.mp member
  rfl

/-- What is put between the events is put into the text. -/
theorem interspersed_output {script extended : Transcript} {added : List Interjection}
    (interspersed : Interspersed script.events (added.map (Interjection.events settings))
      extended.events) :
    Interspersed script.output.toList
      (added.map fun interjection => (interjection.text settings).toList)
      extended.output.toList := by
  have texts := interspersed.flatMap fun event => event.output.toList
  have added_texts (interjection : Interjection) :
      (interjection.events settings).flatMap (fun event => event.output.toList) =
        (interjection.text settings).toList := by
    rw [← toList_printed, interjection.printed_events]
  rw [List.map_map] at texts
  simp only [Function.comp_def, added_texts, ← toList_printed] at texts
  exact texts

/-- Refused lines put into an input whose lines are terminated, wherever questions read and however
many, leave the reports as they are, also as the text of both sessions shows them. Each of them adds
the prompt of the question that refuses it and a complaint to what is printed: to the events, and to
the text the words of that question and a line with the complaint. Nothing else changes. -/
theorem refused_lines_change_no_report (settings : Settings) {script extended : List (List UInt8)}
    {added : List Interjection} (ended : ∀ line ∈ script, Terminated line)
    (interrupted : Interrupted settings .rotations script added extended) :
    (session settings (linesOf extended.flatten)).reports =
      (session settings (linesOf script.flatten)).reports ∧
    Interspersed (session settings (linesOf script.flatten)).events
      (added.map (Interjection.events settings))
      (session settings (linesOf extended.flatten)).events ∧
    (session settings (linesOf extended.flatten)).decodable =
      (session settings (linesOf script.flatten)).decodable ∧
    Shows settings (session settings (linesOf script.flatten)).reports
      (session settings (linesOf script.flatten)).output ∧
    Shows settings (session settings (linesOf script.flatten)).reports
      (session settings (linesOf extended.flatten)).output ∧
    Interspersed (session settings (linesOf script.flatten)).output.toList
      (added.map fun interjection => (interjection.text settings).toList)
      (session settings (linesOf extended.flatten)).output.toList := by
  rw [session, session, linesOf, linesOf, splitLines_flatten ended,
    splitLines_flatten (interrupted.terminated ended)]
  obtain ⟨interspersed, decodable⟩ := interspersed_converse interrupted
  have reports := reports_of_interspersed interspersed
  have shown := shows_converse settings .rotations (script.map Line.ofBytes)
  have stillShown := shows_converse settings .rotations (extended.map Line.ofBytes)
  rw [reports] at stillShown
  exact ⟨reports, interspersed, decodable, shown, stillShown, interspersed_output interspersed⟩

/-- Refused lines at all three questions, two of them in a row, and one where the input ended. -/
theorem refused_lines_change_no_report_of_script :
    let settings : Settings := { costZ := 3, costX := 7 }
    let line (body : String) := (body.toList ++ ['\n']).flatMap String.utf8EncodeChar
    let script := [line "X(90),X(90)", line "4", line " "]
    let extended := [line "X(ninety)", line "X(90),X(90)", line "zero", line "0", line "4",
      line "-1", line " ", line ","]
    (∀ line ∈ script, Terminated line) ∧
    ∃ added : List Interjection, added.length = 5 ∧
      Interrupted settings .rotations script added extended ∧
      (session settings (linesOf extended.flatten)).reports =
        (session settings (linesOf script.flatten)).reports ∧
      Interspersed (session settings (linesOf script.flatten)).events
        (added.map (Interjection.events settings))
        (session settings (linesOf extended.flatten)).events ∧
      Interspersed (session settings (linesOf script.flatten)).output.toList
        (added.map fun interjection => (interjection.text settings).toList)
        (session settings (linesOf extended.flatten)).output.toList ∧
      ∃ reports : List Report, reports.map Report.runningTime = [7] ∧
        Shows settings reports (session settings (linesOf script.flatten)).output ∧
        Shows settings reports (session settings (linesOf extended.flatten)).output := by
  intro settings line script extended
  have ended : ∀ line ∈ script, Terminated line := by
    simp only [script, List.forall_mem_cons, List.not_mem_nil, false_implies, implies_true,
      and_true]
    exact ⟨terminated_flatMap (by decide), terminated_flatMap (by decide),
      terminated_flatMap (by decide)⟩
  have circuit : GivesCircuit ("X(90),X(90)".toList ++ ['\n']) (.ofGates [.x 90, .x 90]) :=
    ⟨by decide, by decide +kernel⟩
  have four : GivesCost settings.costZ ("4".toList ++ ['\n']) 4 :=
    .number ((readUInt64_eq_ok_iff_of_ne_zero (by decide)).mp (by decide +kernel)) (by decide)
  have default : GivesCost settings.costX (" ".toList ++ ['\n']) 7 := .blank (by decide)
  have word : RefusedCircuit ("X(ninety)".toList ++ ['\n']) _ :=
    ⟨by decide, .malformedToken "X(ninety)"
      "invalid angle 'ninety': invalid digit found in string", by decide +kernel, rfl⟩
  have comma : RefusedCircuit (",".toList ++ ['\n']) _ :=
    ⟨by decide, .malformedToken "" "empty token", by decide +kernel, rfl⟩
  have zero : RefusedCost ("zero".toList ++ ['\n']) _ :=
    refusedCost_iff.mpr ⟨by decide, by decide +kernel, rfl⟩
  have nought : RefusedCost ("0".toList ++ ['\n']) _ :=
    refusedCost_iff.mpr ⟨by decide, by decide +kernel, rfl⟩
  have minus : RefusedCost ("-1".toList ++ ['\n']) _ :=
    refusedCost_iff.mpr ⟨by decide, by decide +kernel, rfl⟩
  have interrupted : Interrupted settings .rotations script _ extended :=
    .put ⟨.rotations, _, _, by decide, word⟩ <|
    .read (ofBytes_flatMap _) (answer_circuit circuit) <|
    .put ⟨.lengthZ _, _, _, by decide, zero⟩ <|
    .put ⟨.lengthZ _, _, _, by decide, nought⟩ <|
    .read (ofBytes_flatMap _) (answer_lengthZ _ four) <|
    .put ⟨.lengthX _ _, _, _, by decide, minus⟩ <|
    .read (ofBytes_flatMap _) (answer_lengthX _ _ default) <|
    .put ⟨.rotations, _, _, by decide, comma⟩ <|
    .rest .rotations []
  obtain ⟨reports, interspersed, _, shown, stillShown, texts⟩ :=
    refused_lines_change_no_report settings ended interrupted
  have times :
      (session settings (linesOf script.flatten)).reports.map Report.runningTime = [7] := by
    decide +kernel
  exact ⟨ended, _, rfl, interrupted, reports, interspersed, texts, _, times, shown, stillShown⟩

end QubitRotation.Shell
