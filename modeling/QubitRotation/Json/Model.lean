import QubitRotation.Json.Record
import QubitRotation.Json.Value
import QubitRotation.Optimization

/-!
# The JSON forms of circuits, settings and reports

Each type has a value it is written as and a reader that takes it back. Records are written
with their fields in order; a circuit without a name leaves the name out, and settings may be
read from a text that leaves out any of their fields.
-/

namespace QubitRotation

namespace Json

/-- A field that is read into one place of a draft. -/
def Field.of {δ α : Type} (name : String) (get : δ → Option α) (set : δ → α → δ)
    (reader : Reader α) : Field δ where
  name := name
  isRead draft := (get draft).isSome
  read draft := do return set draft (← reader)

/-- A field that has no default. -/
def required {α : Type} (name : String) : Option α → Except String α
  | some value => .ok value
  | none => .error name

/-- A word as a JSON integer. -/
def Value.word (word : UInt64) : Value := .integer word.toNat

/-- A count as a JSON integer. -/
def Value.count (count : Nat) : Value := .integer count

/-- The value that a whole text holds. -/
def parse {α : Type} (reader : Reader α) (text : String) : Except QubitRotation.Fault α :=
  (readWhole reader text.toList).mapError fun fault => .json fault.message

end Json

open Json (Value Reader Field Format required)

/-! ## Axes, rules and gates -/

/-- An axis is written as its letter. -/
def Axis.json (axis : Axis) : Value := .text axis.text

/-- Reads an axis. -/
def Axis.reader : Reader Axis :=
  Json.readVariant (Axis.all.map fun axis => (axis.text, axis))

/-- The name of a rule in JSON. -/
def Reduction.Rule.jsonName : Reduction.Rule → String
  | merge => "Merge"
  | reflection => "Reflection"
  | identityElimination => "IdentityElimination"

/-- A rule is written as its name. -/
def Reduction.Rule.json (rule : Reduction.Rule) : Value := .text rule.jsonName

/-- Reads a rule. -/
def Reduction.Rule.reader : Reader Reduction.Rule :=
  Json.readVariant (Reduction.Rule.priority.map fun rule => (rule.jsonName, rule))

namespace Gate

/-- A gate is written with its axis and its angle as it is. -/
def json (gate : Gate) : Value :=
  .object [("axis", gate.axis.json), ("angle", .integer gate.angle.toInt)]

/-- A gate as far as it has been read. -/
structure Draft where
  axis? : Option Axis := none
  angle? : Option Angle := none

/-- How a gate is read. -/
def format : Format Draft Gate where
  name := "Gate"
  start := {}
  fields := [
    .of "axis" (·.axis?) (fun draft axis => { draft with axis? := some axis }) Axis.reader,
    .of "angle" (·.angle?) (fun draft angle => { draft with angle? := some angle })
      Json.readInt64]
  finish draft := do
    let axis ← required "axis" draft.axis?
    let angle ← required "angle" draft.angle?
    return { axis, angle }

/-- Reads a gate. -/
def reader : Reader Gate := format.read

end Gate

/-! ## Circuits -/

namespace Circuit

/-- A circuit is written with its gates and, if it has one, its name. -/
def json (circuit : Circuit) : Value :=
  .object (("gates", .array (circuit.gates.map Gate.json)) ::
    circuit.name.toList.map fun name => ("name", .text name))

/-- A circuit as far as it has been read. -/
structure Draft where
  gates? : Option (List Gate) := none
  name? : Option (Option String) := none

/-- How a circuit is read; it has no name if the text has none for it. -/
def format : Format Draft Circuit where
  name := "Circuit"
  start := {}
  fields := [
    .of "gates" (·.gates?) (fun draft gates => { draft with gates? := some gates })
      (Json.readArray Gate.reader),
    .of "name" (·.name?) (fun draft name => { draft with name? := some name })
      Json.readString?]
  finish draft := do
    let gates ← required "gates" draft.gates?
    return { gates, name := draft.name?.getD none }

/-- Reads a circuit. -/
def reader : Reader Circuit := format.read

end Circuit

/-! ## Tallies -/

namespace Reduction.Tally

/-- A tally is written with all its counts. -/
def json (tally : Tally) : Value :=
  .object [
    ("gates_before", .count tally.gatesBefore), ("gates_after", .count tally.gatesAfter),
    ("substitutions", .count tally.substitutions), ("merges", .count tally.merges),
    ("reflections", .count tally.reflections), ("eliminations", .count tally.eliminations),
    ("iterations", .count tally.iterations)]

/-- A tally as far as it has been read. -/
structure Draft where
  gatesBefore? : Option Nat := none
  gatesAfter? : Option Nat := none
  substitutions? : Option Nat := none
  merges? : Option Nat := none
  reflections? : Option Nat := none
  eliminations? : Option Nat := none
  iterations? : Option Nat := none

/-- How a tally is read. -/
def format : Format Draft Tally where
  name := "RewriteStats"
  start := {}
  fields := [
    .of "gates_before" (·.gatesBefore?)
      (fun draft count => { draft with gatesBefore? := some count }) Json.readCount,
    .of "gates_after" (·.gatesAfter?)
      (fun draft count => { draft with gatesAfter? := some count }) Json.readCount,
    .of "substitutions" (·.substitutions?)
      (fun draft count => { draft with substitutions? := some count }) Json.readCount,
    .of "merges" (·.merges?)
      (fun draft count => { draft with merges? := some count }) Json.readCount,
    .of "reflections" (·.reflections?)
      (fun draft count => { draft with reflections? := some count }) Json.readCount,
    .of "eliminations" (·.eliminations?)
      (fun draft count => { draft with eliminations? := some count }) Json.readCount,
    .of "iterations" (·.iterations?)
      (fun draft count => { draft with iterations? := some count }) Json.readCount]
  finish draft := do
    let gatesBefore ← required "gates_before" draft.gatesBefore?
    let gatesAfter ← required "gates_after" draft.gatesAfter?
    let substitutions ← required "substitutions" draft.substitutions?
    let merges ← required "merges" draft.merges?
    let reflections ← required "reflections" draft.reflections?
    let eliminations ← required "eliminations" draft.eliminations?
    let iterations ← required "iterations" draft.iterations?
    return { gatesBefore, gatesAfter, substitutions, merges, reflections, eliminations,
             iterations }

/-- Reads a tally. -/
def reader : Reader Tally := format.read

end Reduction.Tally

/-! ## Costs and times -/

namespace Hardware.Costs

/-- Costs are written Z first. -/
def json (costs : Costs) : Value :=
  .object [("cost_z", .word costs.z), ("cost_x", .word costs.x)]

/-- Costs as far as they have been read. -/
structure Draft where
  z? : Option UInt64 := none
  x? : Option UInt64 := none

/-- How costs are read; they are not checked. -/
def format : Format Draft Costs where
  name := "AxisCosts"
  start := {}
  fields := [
    .of "cost_z" (·.z?) (fun draft cost => { draft with z? := some cost })
      (Json.readUInt64 "u64"),
    .of "cost_x" (·.x?) (fun draft cost => { draft with x? := some cost })
      (Json.readUInt64 "u64")]
  finish draft := do
    let z ← required "cost_z" draft.z?
    let x ← required "cost_x" draft.x?
    return { z, x }

/-- Reads costs. -/
def reader : Reader Costs := format.read

end Hardware.Costs

namespace Hardware.Timing

/-- A running time is written with the counts first. -/
def json (timing : Timing) : Value :=
  .object [
    ("z_gates", .count timing.zGates), ("x_gates", .count timing.xGates),
    ("z_time", .word timing.zTime), ("x_time", .word timing.xTime),
    ("total", .word timing.total)]

/-- A running time as far as it has been read. -/
structure Draft where
  zGates? : Option Nat := none
  xGates? : Option Nat := none
  zTime? : Option UInt64 := none
  xTime? : Option UInt64 := none
  total? : Option UInt64 := none

/-- How a running time is read; its parts need not add up. -/
def format : Format Draft Timing where
  name := "TimingReport"
  start := {}
  fields := [
    .of "z_gates" (·.zGates?) (fun draft count => { draft with zGates? := some count })
      Json.readCount,
    .of "x_gates" (·.xGates?) (fun draft count => { draft with xGates? := some count })
      Json.readCount,
    .of "z_time" (·.zTime?) (fun draft time => { draft with zTime? := some time })
      (Json.readUInt64 "u64"),
    .of "x_time" (·.xTime?) (fun draft time => { draft with xTime? := some time })
      (Json.readUInt64 "u64"),
    .of "total" (·.total?) (fun draft time => { draft with total? := some time })
      (Json.readUInt64 "u64")]
  finish draft := do
    let zGates ← required "z_gates" draft.zGates?
    let xGates ← required "x_gates" draft.xGates?
    let zTime ← required "z_time" draft.zTime?
    let xTime ← required "x_time" draft.xTime?
    let total ← required "total" draft.total?
    return { zGates, xGates, zTime, xTime, total }

/-- Reads a running time. -/
def reader : Reader Timing := format.read

end Hardware.Timing

/-! ## Settings -/

namespace Settings

/-- Settings are written with all their fields. -/
def json (settings : Settings) : Value :=
  .object [
    ("cost_z", .word settings.costZ), ("cost_x", .word settings.costX),
    ("max_iterations_factor", .word settings.factor), ("verbose", .bool settings.verbose)]

/-- Settings as far as they have been read. -/
structure Draft where
  costZ? : Option UInt64 := none
  costX? : Option UInt64 := none
  factor? : Option UInt64 := none
  verbose? : Option Bool := none

/-- The default settings, overwritten by what a draft holds. -/
def Draft.settings (draft : Draft) : Settings :=
  let default : Settings := {}
  { costZ := draft.costZ?.getD default.costZ
    costX := draft.costX?.getD default.costX
    factor := draft.factor?.getD default.factor
    verbose := draft.verbose?.getD default.verbose }

/-- How settings are read; every field has a default, and none is checked. -/
def format : Format Draft Settings where
  name := "OptimizerConfig"
  start := {}
  fields := [
    .of "cost_z" (·.costZ?) (fun draft cost => { draft with costZ? := some cost })
      (Json.readUInt64 "u64"),
    .of "cost_x" (·.costX?) (fun draft cost => { draft with costX? := some cost })
      (Json.readUInt64 "u64"),
    .of "max_iterations_factor" (·.factor?)
      (fun draft factor => { draft with factor? := some factor }) (Json.readUInt64 "usize"),
    .of "verbose" (·.verbose?) (fun draft verbose => { draft with verbose? := some verbose })
      Json.readBool]
  finish draft := return draft.settings

/-- Reads settings. -/
def reader : Reader Settings := format.read

/-- The settings that a JSON text holds, if they are valid. -/
def ofJson (text : String) : Except Fault Settings := do
  (← Json.parse reader text).checked

end Settings

/-! ## Reports -/

namespace Report

/-- A report is written with all its parts. -/
def json (report : Report) : Value :=
  .object [
    ("input", .text report.input), ("xy", report.xy.json), ("xz", report.xz.json),
    ("xy_stats", report.xyTally.json), ("xz_stats", report.xzTally.json),
    ("costs", report.costs.json), ("timing", report.timing.json),
    ("elapsed_us", .word report.elapsedMicros)]

/-- A report as far as it has been read. -/
structure Draft where
  input? : Option String := none
  xy? : Option Circuit := none
  xz? : Option Circuit := none
  xyTally? : Option Reduction.Tally := none
  xzTally? : Option Reduction.Tally := none
  costs? : Option Hardware.Costs := none
  timing? : Option Hardware.Timing := none
  elapsedMicros? : Option UInt64 := none

/-- How a report is read; its parts need not belong together. -/
def format : Format Draft Report where
  name := "OptimizationReport"
  start := {}
  fields := [
    .of "input" (·.input?) (fun draft input => { draft with input? := some input })
      Json.readString,
    .of "xy" (·.xy?) (fun draft xy => { draft with xy? := some xy }) Circuit.reader,
    .of "xz" (·.xz?) (fun draft xz => { draft with xz? := some xz }) Circuit.reader,
    .of "xy_stats" (·.xyTally?) (fun draft tally => { draft with xyTally? := some tally })
      Reduction.Tally.reader,
    .of "xz_stats" (·.xzTally?) (fun draft tally => { draft with xzTally? := some tally })
      Reduction.Tally.reader,
    .of "costs" (·.costs?) (fun draft costs => { draft with costs? := some costs })
      Hardware.Costs.reader,
    .of "timing" (·.timing?) (fun draft timing => { draft with timing? := some timing })
      Hardware.Timing.reader,
    .of "elapsed_us" (·.elapsedMicros?)
      (fun draft time => { draft with elapsedMicros? := some time }) (Json.readUInt64 "u64")]
  finish draft := do
    let input ← required "input" draft.input?
    let xy ← required "xy" draft.xy?
    let xz ← required "xz" draft.xz?
    let xyTally ← required "xy_stats" draft.xyTally?
    let xzTally ← required "xz_stats" draft.xzTally?
    let costs ← required "costs" draft.costs?
    let timing ← required "timing" draft.timing?
    let elapsedMicros ← required "elapsed_us" draft.elapsedMicros?
    return { input, xy, xz, xyTally, xzTally, costs, timing, elapsedMicros }

/-- Reads a report. -/
def reader : Reader Report := format.read

end Report

end QubitRotation
