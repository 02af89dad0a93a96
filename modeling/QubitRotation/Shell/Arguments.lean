import QubitRotation.Numeral
import QubitRotation.Release

/-!
# The arguments of the command

Options have a long name behind two hyphens, and some a letter behind one. A value follows its
option as the next argument, behind an equals sign, or, for a letter, directly. Letters without
a value may be joined, and a letter with a value may end such a cluster.

Arguments are taken from left to right. The first that is not understood ends the command, as
do a second use of an option and a value that is missing or no number; a request for the
version or for help ends it too, and what stands behind is not looked at. Only then the options
are compared with each other: a random circuit excludes a given one, and a seed needs a random
circuit. Where a given circuit rules the random one out, nothing is missing, and the seed has no
effect.
-/

namespace QubitRotation.Shell

/-- What the arguments ask for. -/
structure Arguments where
  circuit? : Option String := none
  random? : Option UInt64 := none
  seed? : Option UInt64 := none
  lengthZ? : Option UInt64 := none
  lengthX? : Option UInt64 := none
  config? : Option String := none
  json : Bool := false
  verbose : Bool := false
  deriving DecidableEq, Repr

/-- A reason to stop before anything else has happened. -/
inductive Stop
  | usage
  | version
  | help
  deriving DecidableEq, Repr

/-- An option with a value. -/
inductive Setting
  | circuit
  | random
  | seed
  | lengthZ
  | lengthX
  | config
  deriving DecidableEq, Repr

/-- An option without a value. -/
inductive Switch
  | json
  | verbose
  | version
  | help
  deriving DecidableEq, Repr

/-- An option. -/
inductive Choice
  | setting (setting : Setting)
  | switch (switch : Switch)

/-- The option with a long name. -/
def Choice.ofName? : String → Option Choice
  | "circuit" => some (.setting .circuit)
  | "random" => some (.setting .random)
  | "seed" => some (.setting .seed)
  | "length-z" => some (.setting .lengthZ)
  | "length-x" => some (.setting .lengthX)
  | "config" => some (.setting .config)
  | "json" => some (.switch .json)
  | "verbose" => some (.switch .verbose)
  | "version" => some (.switch .version)
  | "help" => some (.switch .help)
  | _ => none

/-- The option with a letter. -/
def Choice.ofLetter? : Char → Option Choice
  | 'c' => some (.setting .circuit)
  | 'v' => some (.switch .verbose)
  | 'V' => some (.switch .version)
  | 'h' => some (.switch .help)
  | _ => none

namespace Arguments

/-- Puts a value into a place that has to be free. -/
def fill {α : Type} (place? : Option α) (value : α) : Except Stop (Option α) :=
  match place? with
  | none => .ok (some value)
  | some _ => .error .usage

/-- The unsigned 64-bit number that a value has to be. -/
def number (value : String) : Except Stop UInt64 :=
  (Numeral.readUInt64 value.toList).mapError fun _ => .usage

/-- Takes up the value of an option. -/
def set (arguments : Arguments) (setting : Setting) (value : String) :
    Except Stop Arguments := do
  match setting with
  | .circuit => return { arguments with circuit? := ← fill arguments.circuit? value }
  | .random => return { arguments with random? := ← fill arguments.random? (← number value) }
  | .seed => return { arguments with seed? := ← fill arguments.seed? (← number value) }
  | .lengthZ => return { arguments with lengthZ? := ← fill arguments.lengthZ? (← number value) }
  | .lengthX => return { arguments with lengthX? := ← fill arguments.lengthX? (← number value) }
  | .config =>
      if value.isEmpty then .error .usage
      else return { arguments with config? := ← fill arguments.config? value }

/-- Takes up an option without a value. -/
def turnOn (arguments : Arguments) (switch : Switch) : Except Stop Arguments :=
  match switch with
  | .json => if arguments.json then .error .usage else .ok { arguments with json := true }
  | .verbose =>
      if arguments.verbose then .error .usage else .ok { arguments with verbose := true }
  | .version => .error .version
  | .help => .error .help

/-- Whether an argument can be the value of the option before it: it does not look like an
option itself. A hyphen alone does not. -/
def canBeValue (argument : String) : Bool := !argument.startsWith "-" || argument == "-"

/-- What a single argument amounts to: all of it has been taken up, or it ends in an option
whose value is the next argument. -/
inductive Taken
  | whole (arguments : Arguments)
  | awaiting (arguments : Arguments) (setting : Setting)

/-- Takes a long option, whose value may follow behind an equals sign. -/
def takeLong (arguments : Arguments) (body : List Char) : Except Stop Taken :=
  let name := String.ofList (body.takeWhile (· != '='))
  let value? := (body.dropWhile (· != '=')).tail?
  match Choice.ofName? name, value? with
  | some (.setting setting), some value =>
      (arguments.set setting (String.ofList value)).map .whole
  | some (.setting setting), none => .ok (.awaiting arguments setting)
  | some (.switch switch), none => (arguments.turnOn switch).map .whole
  | _, _ => .error .usage

/-- Takes a cluster of letters. -/
def takeLetters (arguments : Arguments) : List Char → Except Stop Taken
  | [] => .ok (.whole arguments)
  | letter :: rest =>
      match Choice.ofLetter? letter with
      | some (.switch switch) => do takeLetters (← arguments.turnOn switch) rest
      | some (.setting setting) =>
          match rest with
          | [] => .ok (.awaiting arguments setting)
          | '=' :: value => (arguments.set setting (String.ofList value)).map .whole
          | value => (arguments.set setting (String.ofList value)).map .whole
      | none => .error .usage

/-- Takes one argument that is not the value of the option before it. -/
def take (arguments : Arguments) (argument : String) : Except Stop Taken :=
  match argument.toList with
  | '-' :: '-' :: body => arguments.takeLong body
  | '-' :: letter :: letters => arguments.takeLetters (letter :: letters)
  | _ => .error .usage

/-- Takes all arguments from left to right. Behind two hyphens only what belongs to no option
may stand, and the command has no use for that. -/
def takeAll (arguments : Arguments) : List String → Except Stop Arguments
  | [] => .ok arguments
  | "--" :: rest => if rest.isEmpty then .ok arguments else .error .usage
  | argument :: rest => do
      match ← arguments.take argument with
      | .whole arguments => takeAll arguments rest
      | .awaiting arguments setting =>
          match rest with
          | value :: rest =>
              if canBeValue value then takeAll (← arguments.set setting value) rest
              else .error .usage
          | [] => .error .usage

/-- Compares the options with each other. -/
def reconcile (arguments : Arguments) : Except Stop Arguments :=
  if arguments.random?.isSome && arguments.circuit?.isSome then .error .usage
  else if arguments.seed?.isSome && arguments.random?.isNone && arguments.circuit?.isNone then
    .error .usage
  else .ok arguments

/-- What a list of arguments asks for. -/
def parse (arguments : List String) : Except Stop Arguments := do
  reconcile (← takeAll {} arguments)

end Arguments

/-- How the command is used. -/
def usage : String :=
  "Usage: rotq [-c CIRCUIT | --random N [--seed N]] [--length-z N] [--length-x N] " ++
  "[--config PATH] [--json] [-v] [-V]\n"

end QubitRotation.Shell
