import QubitRotation.Hardware.Costs
import QubitRotation.Reduction.Budget

/-!
# Settings of the optimiser

Settings hold the gate costs, the factor of the iteration budget, and whether to report
progress. They are valid if the costs are positive and the factor is; of two faults the one of
the costs is reported.
-/

namespace QubitRotation

/-- What an optimisation may be told. -/
structure Settings where
  costZ : UInt64 := 1
  costX : UInt64 := 1
  factor : UInt64 := Reduction.defaultFactor
  verbose : Bool := false
  deriving DecidableEq, Inhabited, Repr

namespace Settings

/-- The same cost for both axes. -/
def uniform (cost : UInt64) : Settings := { costZ := cost, costX := cost }

/-- The settings for superconducting hardware. -/
def superconducting : Settings :=
  { costZ := Hardware.Costs.superconducting.z, costX := Hardware.Costs.superconducting.x }

/-- The settings with other costs. -/
def withCosts (settings : Settings) (costZ costX : UInt64) : Settings :=
  { settings with costZ, costX }

/-- The gate costs, checked. -/
def costs (settings : Settings) : Except Fault Hardware.Costs :=
  Hardware.Costs.checked settings.costZ settings.costX

/-- Accepts valid settings. -/
def check (settings : Settings) : Except Fault Unit := do
  let _ ← settings.costs
  if settings.factor = 0 then .error (.invalidSettings "max_iterations_factor must be > 0")
  else .ok ()

/-- The settings, if they are valid. -/
def checked (settings : Settings) : Except Fault Settings := do
  settings.check
  return settings

/-- The settings in one line. -/
def text (settings : Settings) : String :=
  s!"OptimizerConfig(lengthZ={settings.costZ.toNat}, lengthX={settings.costX.toNat}, " ++
  s!"max_iterations_factor={settings.factor.toNat})"

end Settings

end QubitRotation
