import QubitRotation.Reduction.Rule

/-!
# Counting what a reduction did

A tally holds the sizes of a sequence before and after a reduction and how often each rule fired.
-/

namespace QubitRotation.Reduction

/-- Counts of a reduction. `iterations` includes the last one, which changed nothing. -/
structure Tally where
  gatesBefore : Nat
  gatesAfter : Nat
  substitutions : Nat := 0
  merges : Nat := 0
  reflections : Nat := 0
  eliminations : Nat := 0
  iterations : Nat := 0
  deriving DecidableEq, Inhabited, Repr

namespace Tally

/-- The tally before anything has happened to a sequence of `gates` gates. -/
def start (gates : Nat) : Tally := { gatesBefore := gates, gatesAfter := gates }

/-- The tally after a rule has fired `count` more times. -/
def record (tally : Tally) (rule : Rule) (count : Nat) : Tally :=
  match rule with
  | .merge => { tally with merges := tally.merges + count }
  | .reflection => { tally with reflections := tally.reflections + count }
  | .identityElimination => { tally with eliminations := tally.eliminations + count }

/-- The tally after one more iteration has begun. -/
def iterate (tally : Tally) : Tally := { tally with iterations := tally.iterations + 1 }

/-- How often rules fired. -/
def firings (tally : Tally) : Nat := tally.merges + tally.reflections + tally.eliminations

/-- How many gates the sequence lost; none if it grew. -/
def removed (tally : Tally) : Nat := tally.gatesBefore - tally.gatesAfter

/-- The gates lost as a percentage of the gates before, computed in binary floating point from
the left: the quotient first, the factor of a hundred last. Nothing is lost from no gates. -/
def reductionPercent (tally : Tally) : Float :=
  if tally.gatesBefore = 0 then 0
  else tally.removed.toUInt64.toFloat / tally.gatesBefore.toUInt64.toFloat * 100

/-- The tally in one line. -/
def text (tally : Tally) : String :=
  s!"{tally.gatesBefore} → {tally.gatesAfter} gates ({tally.merges} merges, " ++
  s!"{tally.reflections} reflections, {tally.eliminations} eliminations, " ++
  s!"{tally.iterations} iterations)"

end Tally

end QubitRotation.Reduction
