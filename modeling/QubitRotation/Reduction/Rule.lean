import QubitRotation.Gate.Algebra

/-!
# The reduction rules

Three rules shorten a gate sequence or prepare it for being shortened. `merge` fuses every run
of neighbours about one axis. `reflection` moves the leftmost eligible half turn one place to
the left and turns the gate it passes the other way round. `identityElimination` drops the
gates that do nothing.

A half turn is eligible only if the move puts two gates about one axis next to each other, so
the next merge shortens the sequence. Each rule reports how often it fired; a rule that did
not fire leaves the sequence as it was.
-/

namespace QubitRotation.Reduction

/-- A reduction rule. -/
inductive Rule
  | merge
  | reflection
  | identityElimination
  deriving DecidableEq, Inhabited, Repr

/-- What one application of a rule did: how often it fired, and the sequence afterwards. -/
structure Pass where
  count : Nat
  gates : List Gate
  deriving DecidableEq, Repr

/-! ## Merging -/

/-- Fuses runs from left to right. `current` is the gate that the next one may be fused into. -/
def mergeFrom (current : Gate) : List Gate → Except Fault Pass
  | [] => .ok ⟨0, [current]⟩
  | next :: rest =>
      if current.axis = next.axis then do
        let fused ← current.fuse next
        let pass ← mergeFrom fused rest
        return ⟨pass.count + 1, pass.gates⟩
      else do
        let pass ← mergeFrom next rest
        return ⟨pass.count, current :: pass.gates⟩

/-- Fuses every run of neighbours about one axis; fires once for each pair fused. -/
def merge : List Gate → Except Fault Pass
  | [] => .ok ⟨0, []⟩
  | first :: rest => mergeFrom first rest

/-! ## Moving half turns -/

/-- Whether `turn` may move left across `left`, between the neighbours of the pair: it is a
half turn about another axis, and afterwards a gate stands next to one about its own axis. -/
def isEligible (before? : Option Gate) (left turn : Gate) (after? : Option Gate) : Bool :=
  left.axis != turn.axis && turn.isHalfTurn &&
    (after?.any (·.axis = left.axis) || before?.any (·.axis = turn.axis))

/-- The first eligible half turn of a sequence whose second gate has index `index` and whose
first one follows `before?`. -/
def siteFrom (before? : Option Gate) (index : Nat) : List Gate → Option Nat
  | left :: turn :: rest =>
      if isEligible before? left turn rest.head? then some index
      else siteFrom (some left) (index + 1) (turn :: rest)
  | _ => none

/-- The index of the leftmost eligible half turn. -/
def reflectionSite? (gates : List Gate) : Option Nat := siteFrom none 1 gates

/-- The sequence after the first eligible half turn has moved, if there is one. -/
def reflectFrom (before? : Option Gate) : List Gate → Option (List Gate)
  | left :: turn :: rest =>
      if isEligible before? left turn rest.head? then some (turn :: left.inverse :: rest)
      else (reflectFrom (some left) (turn :: rest)).map (left :: ·)
  | _ => none

/-- Moves the leftmost eligible half turn, if there is one. -/
def reflection (gates : List Gate) : Pass :=
  match reflectFrom none gates with
  | some moved => ⟨1, moved⟩
  | none => ⟨0, gates⟩

/-! ## Dropping identities -/

/-- Drops the gates that do nothing; fires once for each. -/
def identityElimination (gates : List Gate) : Pass :=
  let kept := gates.filter (!·.isIdentity)
  ⟨gates.length - kept.length, kept⟩

/-! ## The rules -/

namespace Rule

/-- The rules in the order in which they are tried. -/
def priority : List Rule := [.merge, .reflection, .identityElimination]

/-- Applies a rule once. -/
def apply (rule : Rule) (gates : List Gate) : Except Fault Pass :=
  match rule with
  | .merge => Reduction.merge gates
  | .reflection => .ok (Reduction.reflection gates)
  | .identityElimination => .ok (Reduction.identityElimination gates)

/-- The name of a rule. -/
def name : Rule → String
  | .merge => "merge"
  | .reflection => "reflection"
  | .identityElimination => "identity-elimination"

/-- The rule of a name. -/
def ofName? (name : String) : Option Rule := priority.find? (·.name == name)

@[simp] theorem ofName?_name (rule : Rule) : ofName? rule.name = some rule := by
  cases rule <;> decide

end Rule

end QubitRotation.Reduction
