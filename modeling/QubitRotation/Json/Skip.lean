import QubitRotation.Json.Reader

/-!
# Passing over a JSON value

A value of no interest is passed over whatever it is. The brackets that are open are kept in a
list, innermost first, so the depth of a value does not matter. Numbers may be out of range
and strings may name no characters; the grammar is all that counts.
-/

namespace QubitRotation.Json

/-- A bracket that has been opened. -/
inductive Bracket
  | array
  | object

/-- The character that closes a bracket. -/
def Bracket.closing : Bracket → Char
  | array => ']'
  | object => '}'

/-- Passes over a string, a number or a word. -/
def skipScalar (text : List Char) : Except Fault (List Char) :=
  match skipSpace text with
  | '"' :: rest => orBroken (skipText rest)
  | 'n' :: 'u' :: 'l' :: 'l' :: rest => .ok rest
  | 't' :: 'r' :: 'u' :: 'e' :: rest => .ok rest
  | 'f' :: 'a' :: 'l' :: 's' :: 'e' :: rest => .ok rest
  | text => orBroken ((Literal.scan text).map Prod.snd)

/-- Passes over the name of a member and its colon. -/
def skipKey (text : List Char) : Except Fault (List Char) :=
  match skipSpace text with
  | '"' :: rest => do
      let ((), rest) ← expect ':' (← orBroken (skipText rest))
      return rest
  | _ => .error .broken

/-- Passes over what stands before a value inside an open bracket. -/
def Bracket.enter : Bracket → List Char → Except Fault (List Char)
  | array, text => .ok text
  | object, text => skipKey text

/-- Goes on behind a value: closes the brackets that end there, and takes the comma before the
next value. No bracket is left open exactly if the outermost value has ended. -/
def closeBrackets : List Bracket → List Char → Except Fault (List Bracket × List Char)
  | [], text => .ok ([], text)
  | bracket :: outer, text =>
      match skipSpace text with
      | [] => .error .broken
      | c :: rest =>
          if c = ',' then do
            return (bracket :: outer, ← bracket.enter rest)
          else if c = bracket.closing then closeBrackets outer rest
          else .error .broken

/-- Passes over the front of a value: opens a bracket with something in it, or passes over a
value without parts and closes what ends behind it. -/
def skipFront (opened : List Bracket) (text : List Char) :
    Except Fault (List Bracket × List Char) :=
  match skipSpace text with
  | '[' :: rest =>
      match skipSpace rest with
      | ']' :: rest => closeBrackets opened rest
      | _ => .ok (.array :: opened, rest)
  | '{' :: rest =>
      match skipSpace rest with
      | '}' :: rest => closeBrackets opened rest
      | _ => do return (.object :: opened, ← skipKey rest)
  | text => do closeBrackets opened (← skipScalar text)

/-- Passes over values until no bracket is open, in at most as many fronts as `bound` has
characters. -/
def skipOpened : (bound : List Char) → List Bracket → List Char → Except Fault (List Char)
  | [], _, _ => .error .broken
  | _ :: bound, opened, text => do
      match ← skipFront opened text with
      | ([], rest) => return rest
      | (opened, rest) => skipOpened bound opened rest

/-- Passes over a value. Each front takes a character, so the text bounds their number. -/
def skipValue : Reader Unit := fun text => do
  return ((), ← skipOpened text [] text)

end QubitRotation.Json
