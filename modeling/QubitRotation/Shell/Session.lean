import QubitRotation.Optimization
import QubitRotation.Text.Quoted

/-!
# The interactive session

A session asks for a circuit, then for the cost of a Z and of an X rotation, prints what the
optimisation found out, and starts over. A blank answer to the first question ends it, as does
the end of the input anywhere; a blank cost stands for the one in the settings. An answer that
cannot be used is complained about and the same question is asked again.

`Question.answer` is one step of the session and `converse` runs it over a list of lines, so
the order of what is printed can be read off `Event`s rather than off their text.
-/

namespace QubitRotation.Shell

/-- One line of input, which may fail to be a text. -/
inductive Line
  | text (line : String)
  | undecodable

/-- What the session waits for, with the answers it has got in this round. -/
inductive Question
  | rotations
  | lengthZ (circuit : Circuit)
  | lengthX (circuit : Circuit) (costZ : UInt64)

/-- Something that the session prints. -/
inductive Event
  | prompt (text : String)
  | complaint (text : String)
  | report (report : Report)

/-- The lines that sum up a report for a reader. -/
def summary (report : Report) : String :=
  s!"\n Optimized circuit with XY: {report.xy.text}\n" ++
  s!" Optimized circuit with XZ: {report.xz.text}\n" ++
  s!" Hardware running time: {report.runningTime.toNat}\n\n"

/-- What an event looks like. -/
def Event.output : Event → String
  | .prompt text => text
  | .complaint text => s!"error: {text}\n"
  | .report result => summary result

/-- The prompt for a cost that has a default. -/
def costPrompt (axis : Axis) (default : UInt64) : String :=
  s!"Enter the length of the {axis.text} gate [{default.toNat}]: "

/-- The cost that an answer stands for: a positive number, or the default if it is blank. -/
def readCost (default : UInt64) (answer : List Char) : Except String UInt64 :=
  if answer.isEmpty then .ok default
  else
    let refused := s!"length must be a positive integer, got {String.ofList (Text.quoted answer)}"
    match Numeral.readUInt64 answer with
    | .ok cost => if cost = 0 then .error refused else .ok cost
    | .error _ => .error refused

/-- The report of a finished round, or a complaint. A session does not say how long anything took,
so no clock is read for it. -/
def Event.ofRound (settings : Settings) (circuit : Circuit) (costZ costX : UInt64) : Event :=
  match (settings.withCosts costZ costX).optimize circuit with
  | .ok result => .report result
  | .error fault => .complaint fault.message

namespace Question

/-- The words of a question. -/
def prompt (settings : Settings) : Question → String
  | .rotations => "Enter a sequence of rotations: "
  | .lengthZ _ => costPrompt .z settings.costZ
  | .lengthX _ _ => costPrompt .x settings.costX

/-- What an answer leads to: the events it causes and the next question, if the session goes
on. White space around the answer does not count. -/
def answer (settings : Settings) (question : Question) (line : String) :
    List Event × Option Question :=
  let answer := Text.trim line.toList
  match question with
  | .rotations =>
      if answer.isEmpty then ([], none)
      else
        match Circuit.parse (String.ofList answer) with
        | .ok circuit => ([], some (.lengthZ circuit))
        | .error fault => ([.complaint fault.message], some question)
  | .lengthZ circuit =>
      match readCost settings.costZ answer with
      | .ok cost => ([], some (.lengthX circuit cost))
      | .error complaint => ([.complaint complaint], some question)
  | .lengthX circuit costZ =>
      match readCost settings.costX answer with
      | .ok cost => ([.ofRound settings circuit costZ cost], some .rotations)
      | .error complaint => ([.complaint complaint], some question)

end Question

/-- A session from beginning to end. -/
structure Transcript where
  events : List Event
  /-- Whether every line that was asked for was a text. -/
  decodable : Bool := true

/-- Everything a session prints. -/
def Transcript.output (transcript : Transcript) : String :=
  String.join (transcript.events.map Event.output)

/-- Puts events in front of a transcript. -/
def Transcript.after (events : List Event) (transcript : Transcript) : Transcript :=
  { transcript with events := events ++ transcript.events }

/-- The session from a question on. -/
def converse (settings : Settings) (question : Question) : List Line → Transcript
  | [] => { events := [.prompt (question.prompt settings)] }
  | .undecodable :: _ => { events := [.prompt (question.prompt settings)], decodable := false }
  | .text line :: lines =>
      let (events, next?) := question.answer settings line
      let events := .prompt (question.prompt settings) :: events
      match next? with
      | none => { events }
      | some next => (converse settings next lines).after events

/-- A whole session. -/
def session (settings : Settings) (lines : List Line) : Transcript :=
  converse settings .rotations lines

/-! ## Lines of bytes -/

/-- The lines of some bytes, each with the line feed that ends it; the last one may lack it. -/
def splitLines (bytes : List UInt8) : List (List UInt8) :=
  match bytes with
  | [] => []
  | byte :: rest =>
      if byte = 10 then [byte] :: splitLines rest
      else
        match splitLines rest with
        | [] => [[byte]]
        | line :: lines => (byte :: line) :: lines

/-- The text that the bytes of a line encode. -/
def Line.ofBytes (bytes : List UInt8) : Line :=
  match String.fromUTF8? ⟨bytes.toArray⟩ with
  | some line => .text line
  | none => .undecodable

/-- The lines of an input. -/
def linesOf (input : List UInt8) : List Line := (splitLines input).map Line.ofBytes

end QubitRotation.Shell
