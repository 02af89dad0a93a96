import QubitRotation.Files
import QubitRotation.Random.Generator
import QubitRotation.Shell.Arguments
import QubitRotation.Shell.Session

/-!
# The command

The command optimises one circuit, given or random, or holds a session. Arguments are looked
at first, then the settings are put together from a file and from the options that override it,
and only then the circuit is read. `plan` does all this up to the point where a clock or input is
needed, and `run` goes on with the reading of the clock and the input.
-/

namespace QubitRotation.Shell

/-- What the command leaves behind. -/
structure Outcome where
  exitCode : UInt8
  output : String := ""
  errors : String := ""
  deriving DecidableEq, Repr

/-- What lies outside the command: the files, where unseeded random circuits come from, and how
long the optimisation of one circuit takes. -/
structure World where
  files : Files
  entropy : Random.Stream
  elapsedMicros : UInt64 := 0

/-- How far the command gets without a clock and input: to the end, to a circuit that is to be
optimised, or to a session. -/
inductive Plan
  | done (outcome : Outcome)
  | optimize (arguments : Arguments) (settings : Settings) (circuit : Circuit)
  | converse (settings : Settings)

/-- A text with every line indented. -/
def indented (text : String) : String :=
  "\n".intercalate ((text.toList.splitOn '\n').map fun line => "    " ++ String.ofList line)

/-- The outcome of a fault. -/
def failure (message : String) : Outcome := { exitCode := 1, errors := s!"Error: {message}" }

/-- The outcome of a fault within a task. -/
def failureIn (task : String) (fault : Fault) : Outcome :=
  failure s!"{task}\n\nCaused by:\n{indented fault.message}"

namespace Arguments

/-- The settings that the arguments lead to: those of the file, overridden by options. -/
def settings (arguments : Arguments) (files : Files) : Except Outcome Settings := do
  let settings ←
    match arguments.config? with
    | some path => (Settings.ofFile files path).mapError (failureIn s!"loading config {path}")
    | none => .ok {}
  let settings : Settings :=
    { settings with
      costZ := arguments.lengthZ?.getD settings.costZ
      costX := arguments.lengthX?.getD settings.costX
      verbose := settings.verbose || arguments.verbose }
  settings.checked.mapError (failureIn "invalid gate costs")

/-- The circuit that the arguments name, if they name one. -/
def givenCircuit (arguments : Arguments) (entropy : Random.Stream) :
    Except Outcome (Option Circuit) :=
  match arguments.circuit?, arguments.random? with
  | some text, _ =>
      match Circuit.parse text with
      | .ok circuit => .ok (some circuit)
      | .error fault => .error (failureIn s!"parsing circuit {Text.quote text}" fault)
  | none, some length =>
      let stream := (arguments.seed?.map Random.Stream.ofSeed).getD entropy
      .ok (some (Random.stepped stream Random.defaultStep length.toNat))
  | none, none => .ok none

/-- A report in the form that the arguments ask for. -/
def render (arguments : Arguments) (report : Report) : String :=
  if arguments.json then report.json.pretty ++ "\n" else summary report

/-- The outcome of an optimisation. -/
def outcome (arguments : Arguments) : Except Fault Report → Outcome
  | .ok report => { exitCode := 0, output := arguments.render report }
  | .error fault => failure fault.message

/-- What the arguments lead to. -/
def plan (arguments : Arguments) (world : World) : Except Outcome Plan := do
  let settings ← arguments.settings world.files
  match ← arguments.givenCircuit world.entropy with
  | none => return .converse settings
  | some circuit => return .optimize arguments settings circuit

end Arguments

/-- The outcome of arguments that ask for nothing to be done. -/
def Stop.outcome : Stop → Outcome
  | usage => { exitCode := 2, errors := Shell.usage }
  | version => { exitCode := 0, output := Release.banner ++ "\n" }
  | help => { exitCode := 0, output := Shell.usage }

/-- How far the command gets without a clock and input. -/
def plan (world : World) (arguments : List String) : Plan :=
  match Arguments.parse arguments with
  | .error stop => .done stop.outcome
  | .ok arguments =>
      match arguments.plan world with
      | .ok plan => plan
      | .error outcome => .done outcome

/-- The outcome of a session. -/
def Transcript.outcome (transcript : Transcript) : Outcome :=
  if transcript.decodable then { exitCode := 0, output := transcript.output }
  else { failure "stream did not contain valid UTF-8" with output := transcript.output }

/-- The command on some arguments and input. -/
def run (world : World) (arguments : List String) (input : List UInt8) : Outcome :=
  match plan world arguments with
  | .done outcome => outcome
  | .optimize arguments settings circuit =>
      arguments.outcome (settings.optimize circuit world.elapsedMicros)
  | .converse settings => (session settings (linesOf input)).outcome

end QubitRotation.Shell
