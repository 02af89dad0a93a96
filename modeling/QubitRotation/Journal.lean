import QubitRotation.Optimization

/-!
# The journal of an operation

Operations leave records of what they did, each at a level of importance. They are derived from
the same runs that give the results: every firing of a rule is traced, a run says whether it
converged, and an optimisation sums up.
-/

namespace QubitRotation

/-- How important a record is. -/
inductive Level
  | trace
  | debug
  | info
  | warn
  deriving DecidableEq, Repr

/-- The name of a level. -/
def Level.name : Level → String
  | trace => "TRACE"
  | debug => "DEBUG"
  | info => "INFO"
  | warn => "WARN"

/-- One line of a journal. -/
structure Record where
  level : Level
  message : String
  deriving DecidableEq, Repr

namespace Reduction

/-- The record of one firing. -/
def Firing.record (firing : Firing) : Record :=
  ⟨.trace, s!"{firing.rule.name} x{firing.count} -> {firing.left} gates"⟩

/-- The record of how a run ended. -/
def Run.closing (run : Run) : List Record :=
  match run.outcome with
  | .ok tally => [⟨.debug, s!"rewrite converged: {tally.text}"⟩]
  | .error (.iterationsExceeded iterations _) =>
      [⟨.warn, s!"rewrite loop did not converge after {iterations} iterations " ++
        s!"({run.gates.length} gates left)"⟩]
  | .error _ => []

/-- The records of a run. -/
def Run.journal (run : Run) : List Record :=
  run.firings.map Firing.record ++ run.closing

/-- The records of reducing a sequence. -/
def journal (factor : Nat) (gates : List Gate) : List Record := (run factor gates).journal

/-- The records of reducing a sequence without Y rotations. -/
def nativeJournal (factor : Nat) (gates : List Gate) : List Record :=
  ⟨.trace, s!"substituted {countY gates} Y gates"⟩ :: journal factor (expandAll gates)

end Reduction

/-- The records of timing a circuit. -/
def Hardware.Costs.timingJournal (circuit : Circuit) : List Record :=
  match circuit.firstNonNative? with
  | some gate => [⟨.warn, s!"timing requested for non-native gate {gate.text}"⟩]
  | none => []

namespace Settings

/-- The records of `Settings.optimizeXY`. -/
def optimizeXYJournal (settings : Settings) (circuit : Circuit) : List Record :=
  Reduction.journal settings.factor.toNat circuit.gates

/-- The records of `Settings.optimizeXZ`. -/
def optimizeXZJournal (settings : Settings) (circuit : Circuit) : List Record :=
  Reduction.nativeJournal settings.factor.toNat circuit.gates

/-- The records of `Settings.nativeRunningTime`, which reduces only under positive costs. -/
def nativeRunningTimeJournal (settings : Settings) (circuit : Circuit) : List Record :=
  match settings.costs with
  | .ok _ => settings.optimizeXZJournal circuit
  | .error _ => []

/-- The record that opens a verbose optimisation. -/
def openingRecord (settings : Settings) (circuit : Circuit) : List Record :=
  if settings.verbose then
    [⟨.info, s!"optimizing {circuit.size} gates with {settings.text}"⟩]
  else []

/-- The record that sums up a report. -/
def summaryRecord (report : Report) : Record :=
  ⟨.debug, s!"xy {report.xyTally.gatesBefore} -> {report.xyTally.gatesAfter} gates, " ++
    s!"xz {report.xzTally.gatesAfter} gates, running time {report.timing.total.toNat}"⟩

/-- The records of the second half of `Settings.optimize`, from the native reduction on. -/
def nativeHalfJournal (settings : Settings) (circuit : Circuit) : List Record :=
  settings.optimizeXZJournal circuit ++
    match settings.optimizeXZ circuit with
    | .error _ => []
    | .ok native =>
        Hardware.Costs.timingJournal native ++
          match settings.optimize circuit with
          | .ok report => [summaryRecord report]
          | .error _ => []

/-- The records of `Settings.optimize`. -/
def optimizeJournal (settings : Settings) (circuit : Circuit) : List Record :=
  match settings.check with
  | .error _ => []
  | .ok _ =>
      settings.openingRecord circuit ++ settings.optimizeXYJournal circuit ++
        match settings.optimizeXY circuit with
        | .error _ => []
        | .ok _ => settings.nativeHalfJournal circuit

end Settings

end QubitRotation
