import QubitRotation.Circuit
import QubitRotation.Random.Draw
import QubitRotation.Random.Stream

/-!
# Random circuits

Circuits drawn gate by gate from a source of words. `stepped` draws angles that are multiples
of a step between minus and plus a full turn; `halfTurns` draws half turns every other time and
a multiple of a quarter turn otherwise. The length decides only where drawing stops, so a
shorter circuit is the beginning of a longer one from the same seed.
-/

namespace QubitRotation.Random

variable {σ : Type}

/-- The step between drawn angles if none is chosen. -/
def defaultStep : Angle := 45

/-- The size of a step, at least one degree and at most a full turn. -/
def stepSize (step : Angle) : Nat := max 1 (min step.toInt.natAbs 360)

/-- Draws an axis. -/
def axis (next : Source σ) (state : σ) : Axis × σ :=
  let (index, state) := below next 3 state
  (Axis.all.getD index .x, state)

/-- Draws a multiple of the step between minus and plus a full turn. -/
def steppedAngle (next : Source σ) (size : Nat) (state : σ) : Angle × σ :=
  let steps := 360 / size
  let (index, state) := below next (2 * steps + 1) state
  (Int64.ofInt ((index - steps) * size), state)

/-- Draws a half turn, or else one, two or three quarter turns. -/
def halfTurnAngle (next : Source σ) (state : σ) : Angle × σ :=
  let (half, state) := coin next state
  if half then (Angle.halfTurn, state)
  else
    let (index, state) := below next 3 state
    (Int64.ofInt ((index + 1) * 90), state)

/-- Draws a gate: its axis, then its angle. -/
def gate (next : Source σ) (angle : σ → Angle × σ) (state : σ) : Gate × σ :=
  let (axis, state) := axis next state
  let (angle, state) := angle state
  (⟨axis, angle⟩, state)

/-- Draws one gate after the other. -/
def gates (draw : σ → Gate × σ) : (length : Nat) → σ → List Gate
  | 0, _ => []
  | length + 1, state =>
      let (gate, state) := draw state
      gate :: gates draw length state

/-- Gates with angles that are multiples of a step. -/
def steppedGates (next : Source σ) (step : Angle) (length : Nat) (state : σ) : List Gate :=
  gates (gate next (steppedAngle next (stepSize step))) length state

/-- Gates of which half and more are half turns. -/
def halfTurnGates (next : Source σ) (length : Nat) (state : σ) : List Gate :=
  gates (gate next (halfTurnAngle next)) length state

/-- A circuit with angles that are multiples of a step. -/
def stepped (stream : Stream) (step : Angle) (length : Nat) : Circuit where
  gates := steppedGates Stream.next step length stream
  name := s!"random-{length}"

/-- A circuit of which half and more are half turns. -/
def halfTurns (stream : Stream) (length : Nat) : Circuit where
  gates := halfTurnGates Stream.next length stream
  name := s!"half-turn-{length}"

end QubitRotation.Random
