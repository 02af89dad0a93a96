import QubitRotation.Reduction.Budget
import QubitRotation.Reduction.Native
import QubitRotation.Reduction.Tally

/-!
# Reducing to the end

A run repeats one step until no rule fires: it tries the rules in their order of priority and
keeps the first one that changes something. `Run` holds what is left of the sequence also when
the iterations are used up, and each firing on the way.

`run` works with all three axes. `runNative` replaces the Y rotations first, so what is left
turns about X and Z only.
-/

namespace QubitRotation.Reduction

/-- One firing of a rule within a run: how often it fired, and the gates left afterwards. -/
structure Firing where
  rule : Rule
  count : Nat
  left : Nat
  deriving DecidableEq, Repr

/-- A finished run: the sequence it left, its outcome, and its firings in order. -/
structure Run where
  gates : List Gate
  outcome : Except Fault Tally
  firings : List Firing := []

/-- The first of some rules that fires on a sequence, with what it did. -/
def firstToFire : List Rule → List Gate → Except Fault (Option (Rule × Pass))
  | [], _ => .ok none
  | rule :: others, gates => do
      let pass ← rule.apply gates
      if pass.count > 0 then return some (rule, pass) else firstToFire others gates

/-- One step of a run: the first rule in order of priority that fires. -/
def step (gates : List Gate) : Except Fault (Option (Rule × Pass)) :=
  firstToFire Rule.priority gates

/-- Reduces with `remaining` iterations to go, counting on from `tally`. -/
def runFrom : (remaining : Nat) → Tally → List Gate → Run
  | 0, tally, gates =>
      { gates, outcome := .error (.iterationsExceeded tally.iterations tally.gatesBefore) }
  | remaining + 1, tally, gates =>
      let tally := tally.iterate
      match step gates with
      | .error fault => { gates, outcome := .error fault }
      | .ok none => { gates, outcome := .ok { tally with gatesAfter := gates.length } }
      | .ok (some (rule, pass)) =>
          let rest := runFrom remaining (tally.record rule pass.count) pass.gates
          { rest with firings := ⟨rule, pass.count, pass.gates.length⟩ :: rest.firings }

/-- Reduces a sequence until no rule fires, within the budget of its length. -/
def run (factor : Nat) (gates : List Gate) : Run :=
  runFrom (budget factor gates.length) (.start gates.length) gates

/-- Replaces the Y rotations and reduces what results. The tally counts from the sequence
before the replacement. -/
def runNative (factor : Nat) (gates : List Gate) : Run :=
  let run := run factor (expandAll gates)
  { run with
    outcome := run.outcome.map fun tally =>
      { tally with gatesBefore := gates.length, substitutions := countY gates } }

end QubitRotation.Reduction
