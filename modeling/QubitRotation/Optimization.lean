import QubitRotation.Hardware.Timing
import QubitRotation.Reduction.Run
import QubitRotation.Settings

/-!
# Optimising a circuit

Three questions about a circuit: its shortest form with all axes (`optimizeXY`), its shortest
form for the hardware (`optimizeXZ`), and how long the hardware takes for the latter
(`nativeRunningTime`). `optimize` answers them all in one report.

The budget of the settings only guards the reduction, so every valid choice of settings gives
the same circuits.
-/

namespace QubitRotation

namespace Circuit

/-- The circuit that a run left, under the same name, with the tally of the run. -/
def afterRun (circuit : Circuit) (run : Reduction.Run) : Except Fault (Circuit × Reduction.Tally) :=
  run.outcome.map fun tally => (circuit.withGates run.gates, tally)

/-- Reduces a circuit to the end. -/
def reduce (factor : Nat) (circuit : Circuit) : Except Fault (Circuit × Reduction.Tally) :=
  circuit.afterRun (Reduction.run factor circuit.gates)

/-- Reduces a circuit to the end without Y rotations. -/
def reduceNative (factor : Nat) (circuit : Circuit) : Except Fault (Circuit × Reduction.Tally) :=
  circuit.afterRun (Reduction.runNative factor circuit.gates)

end Circuit

/-- What one optimisation found out. -/
structure Report where
  /-- The circuit that was optimised, in gate notation. -/
  input : String
  /-- The circuit reduced with all axes. -/
  xy : Circuit
  /-- The circuit reduced for the hardware. -/
  xz : Circuit
  xyTally : Reduction.Tally
  xzTally : Reduction.Tally
  costs : Hardware.Costs
  /-- The running time of `xz`. -/
  timing : Hardware.Timing
  /-- The time the optimisation took, in microseconds. -/
  elapsedMicros : UInt64
  deriving DecidableEq, Inhabited, Repr

namespace Report

/-- The running time of the circuit for the hardware. -/
def runningTime (report : Report) : UInt64 := report.timing.total

/-- The number of gates that reducing with all axes saved. -/
def saved (report : Report) : Nat := report.xyTally.removed

/-- The report in four lines. -/
def text (report : Report) : String :=
  s!"Input:        {report.input}\n" ++
  s!"XY optimized: {report.xy.text}\n" ++
  s!"XZ optimized: {report.xz.text}\n" ++
  s!"Running time: {report.timing.text}"

end Report

namespace Settings

/-- The circuit reduced with rotations about X, Y and Z. -/
def optimizeXY (settings : Settings) (circuit : Circuit) : Except Fault Circuit :=
  (circuit.reduce settings.factor.toNat).map Prod.fst

/-- The circuit reduced to rotations about X and Z. -/
def optimizeXZ (settings : Settings) (circuit : Circuit) : Except Fault Circuit :=
  (circuit.reduceNative settings.factor.toNat).map Prod.fst

/-- The running time of the circuit reduced for the hardware. -/
def nativeRunningTime (settings : Settings) (circuit : Circuit) : Except Fault UInt64 := do
  let costs ← settings.costs
  let native ← settings.optimizeXZ circuit
  costs.runningTime native.gates

/-- Reduces a circuit both ways and times the form for the hardware. How long this took is known
to whoever keeps a clock; it goes into the report and has no other effect. -/
def optimize (settings : Settings) (circuit : Circuit) (elapsedMicros : UInt64 := 0) :
    Except Fault Report := do
  settings.check
  let costs ← settings.costs
  let (xy, xyTally) ← circuit.reduce settings.factor.toNat
  let (xz, xzTally) ← circuit.reduceNative settings.factor.toNat
  let timing ← costs.timing xz
  return { input := circuit.text, xy, xz, xyTally, xzTally, costs, timing, elapsedMicros }

end Settings

namespace Circuit

/-- The circuit reduced with rotations about X, Y and Z, under the default settings. -/
def optimizeXY (circuit : Circuit) : Except Fault Circuit :=
  Settings.optimizeXY {} circuit

/-- The circuit reduced to rotations about X and Z, under the default settings. -/
def optimizeXZ (circuit : Circuit) : Except Fault Circuit :=
  Settings.optimizeXZ {} circuit

/-- The running time of the circuit on hardware with the given costs. -/
def nativeRunningTime (circuit : Circuit) (costZ costX : UInt64) : Except Fault UInt64 :=
  (Settings.withCosts {} costZ costX).nativeRunningTime circuit

end Circuit

end QubitRotation
