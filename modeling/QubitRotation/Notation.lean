import QubitRotation.Gate.Algebra
import QubitRotation.Numeral
import QubitRotation.Text.Blank

/-!
# The written form of gate sequences

Gates are written one after the other with commas between them, each as its axis and its
angle in round brackets: `X(90),Y(180),Z(-90)`. A reader may meet white space around a token,
never inside it, and a plus sign or leading zeros in an angle. Writing uses none of these.

`readToken` reads one token that has no white space around it and says what is wrong with it;
`readGate` and `readGates` name the token too. Of several bad tokens the leftmost is reported.
-/

namespace QubitRotation.Notation

/-- Why a token is no gate. -/
inductive Reason
  | emptyToken
  | unknownAxis (letter : Char)
  | noOpening
  | noClosing
  | noAngle
  | invalidAngle (angle : List Char) (fault : Numeral.Fault)
  deriving DecidableEq, Repr

/-- The wording of a reason. -/
def Reason.message : Reason → String
  | emptyToken => "empty token"
  | unknownAxis letter => s!"unknown axis '{letter}': expected X, Y, or Z"
  | noOpening => "expected '(' after axis"
  | noClosing => "missing closing ')'"
  | noAngle => "missing angle"
  | invalidAngle angle fault =>
      s!"invalid angle '{String.ofList angle}': {fault.message}"

/-- The angle between the round brackets of a token. -/
def readAngle (angle : List Char) : Except Reason Angle :=
  if angle.isEmpty then .error .noAngle
  else (Numeral.readInt64 angle).mapError (.invalidAngle angle)

/-- What stands between an opening bracket at the front and a closing one at the end. -/
def inBrackets : List Char → Except Reason (List Char)
  | '(' :: rest =>
      if rest.getLast? = some ')' then .ok rest.dropLast else .error .noClosing
  | _ => .error .noOpening

/-- The gate that a token stands for. -/
def readToken : List Char → Except Reason Gate
  | [] => .error .emptyToken
  | letter :: rest =>
      match Axis.ofLetter? letter with
      | none => .error (.unknownAxis letter)
      | some axis => do
          let angle ← readAngle (← inBrackets rest)
          return ⟨axis, angle⟩

/-- The gate that a token with white space around it stands for. -/
def readPiece (piece : List Char) : Except Fault Gate :=
  let token := Text.trim piece
  (readToken token).mapError fun reason =>
    .malformedToken (String.ofList token) reason.message

/-- The gates that a text of tokens with commas between them stands for. -/
def readPieces (text : List Char) : Except Fault (List Gate) :=
  if text.all Text.isBlank then .error .emptyCircuit
  else (text.splitOn ',').mapM readPiece

/-- The gate that a text stands for. -/
def readGate (text : String) : Except Fault Gate := readPiece text.toList

/-- The gates that a text stands for; there has to be at least one. -/
def readGates (text : String) : Except Fault (List Gate) := readPieces text.toList

/-- The written form of a gate sequence, which is empty for no gates. -/
def writeGates (gates : List Gate) : String :=
  ",".intercalate (gates.map Gate.text)

/-- The axis that a text names: its one letter. -/
def readAxis (text : String) : Except Fault Axis :=
  match text.toList with
  | [letter] =>
      match Axis.ofLetter? letter with
      | some axis => .ok axis
      | none => .error (.invalidAxis text)
  | _ => .error (.invalidAxis text)

end QubitRotation.Notation
