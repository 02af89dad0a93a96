import QubitRotation.Shell.Command

/-!
# The program

The outer layer of the command: it reads a file of settings, draws a key for random circuits,
keeps the clock, and passes lines between the terminal and the session.
-/

namespace QubitRotation.Shell.Terminal

/-- The text of a file, or why there is none. -/
def readFile (path : String) : IO (Except Unreadable String) := do
  try
    let bytes ← IO.FS.readBinFile path
    match String.fromUTF8? bytes with
    | some text => return .ok text
    | none => return .error .notText
  catch
    | .noFileOrDirectory .. => return .error .notFound
    | .inappropriateType .. => return .error .isDirectory
    | fault => return .error (.other (toString fault))

/-- The start of a stream that nobody can foresee. -/
def unforeseen : IO Random.Stream := do
  let bytes ← IO.getRandomBytes 32
  let word (i : Fin 8) : UInt32 :=
    (List.range 4).foldl (fun word k => (word <<< 8) ||| (bytes.get! (4 * i.val + k)).toUInt32) 0
  return { key := Vector.ofFn word }

/-- Holds a session with the terminal from a question on. -/
partial def talk (settings : Settings) (question : Question) : IO UInt32 := do
  let output ← IO.getStdout
  output.putStr (question.prompt settings)
  output.flush
  let bytes ← (← IO.getStdin).getLine.toBaseIO
  match bytes with
  | .error _ =>
      (← IO.getStderr).putStrLn "Error: stream did not contain valid UTF-8"
      return 1
  | .ok line =>
      if line.isEmpty then return 0
      let (events, next?) := question.answer settings line
      for event in events do output.putStr event.output
      match next? with
      | none => return 0
      | some next => talk settings next

/-- Prints an outcome and gives its exit code. -/
def conclude (outcome : Outcome) : IO UInt32 := do
  (← IO.getStdout).putStr outcome.output
  unless outcome.errors.isEmpty do (← IO.getStderr).putStrLn outcome.errors
  return outcome.exitCode.toUInt32

/-- Optimises a circuit and puts down how long that took. -/
def measured (settings : Settings) (circuit : Circuit) : IO (Except Fault Report) := do
  let start ← IO.monoNanosNow
  let result ← IO.lazyPure fun _ => settings.optimize circuit
  let elapsed := ((← IO.monoNanosNow) - start) / 1000
  return result.map fun report => { report with elapsedMicros := .ofNat elapsed }

/-- Runs the command with the arguments of the process and gives its exit code. -/
def run (arguments : List String) : IO UInt32 := do
  let file ←
    match Arguments.parse arguments with
    | .ok { config? := some path, .. } => readFile path
    | _ => pure (.error .notFound)
  let world : World := { files := fun _ => file, entropy := ← unforeseen }
  match plan world arguments with
  | .done outcome => conclude outcome
  | .optimize arguments settings circuit =>
      conclude (arguments.outcome (← measured settings circuit))
  | .converse settings => talk settings .rotations

end QubitRotation.Shell.Terminal

/-- The program. -/
def main (arguments : List String) : IO UInt32 :=
  QubitRotation.Shell.Terminal.run arguments
