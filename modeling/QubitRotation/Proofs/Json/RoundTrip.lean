import Mathlib.Data.List.TakeWhile
import QubitRotation.Proofs.Json.Containers
import QubitRotation.Proofs.Results

/-!
# Circuits and reports that are written and read back

Each type is read back from what is written for it in any layout that puts nothing but white space
between the parts: the members fill its draft one after another. `json_round_trip` says so of whole
texts, in the compact and in the pretty layout.

Counts are natural numbers here, and only those that fit in 64 bits are read back. A report that
`Fits` has no others.
-/

namespace QubitRotation

open Json

variable {layout : Layout}

/-! ## Circuits -/

theorem Axis.taken (axis : Axis) : Takes Axis.reader (writeText axis.text.toList) axis :=
  takes_variant (by cases axis <;> decide)

theorem Gate.taken (spaced : layout.Spaced) (depth : Nat) (gate : Gate) :
    Takes Gate.reader (layout.writeAt depth gate.json) gate := by
  refine Format.takes_object spaced depth ?_
  refine .field spaced gate.axis.taken rfl rfl ?_
  refine .field spaced (takes_int64 gate.angle) rfl rfl ?_
  exact .nil rfl

theorem Circuit.taken (spaced : layout.Spaced) (depth : Nat) (circuit : Circuit) :
    Takes Circuit.reader (layout.writeAt depth circuit.json) circuit := by
  obtain ⟨gates, name⟩ := circuit
  have read : Takes (readArray Gate.reader)
      (layout.writeAt (depth + 1) (.array (gates.map Gate.json))) gates :=
    takes_array spaced (depth + 1) (Gate.taken spaced (depth + 2)) gates
  cases name with
  | none =>
      refine Format.takes_object spaced depth ?_
      refine .field spaced read rfl rfl ?_
      exact .nil rfl
  | some name =>
      refine Format.takes_object spaced depth ?_
      refine .field spaced read rfl rfl ?_
      refine .field spaced (takes_string? name) rfl rfl ?_
      exact .nil rfl

/-! ## Reports -/

/-- Counts that a machine of 64 bits can hold. -/
structure Reduction.Tally.Fits (tally : Reduction.Tally) : Prop where
  gatesBefore : tally.gatesBefore < UInt64.size
  gatesAfter : tally.gatesAfter < UInt64.size
  substitutions : tally.substitutions < UInt64.size
  merges : tally.merges < UInt64.size
  reflections : tally.reflections < UInt64.size
  eliminations : tally.eliminations < UInt64.size
  iterations : tally.iterations < UInt64.size

/-- Counts of gates that a machine of 64 bits can hold. -/
structure Hardware.Timing.Fits (timing : Hardware.Timing) : Prop where
  zGates : timing.zGates < UInt64.size
  xGates : timing.xGates < UInt64.size

/-- A report whose counts a machine of 64 bits can hold. -/
structure Report.Fits (report : Report) : Prop where
  xyTally : report.xyTally.Fits
  xzTally : report.xzTally.Fits
  timing : report.timing.Fits

theorem Reduction.Tally.taken (spaced : layout.Spaced) (depth : Nat) {tally : Reduction.Tally}
    (fits : tally.Fits) :
    Takes Reduction.Tally.reader (layout.writeAt depth tally.json) tally := by
  refine Format.takes_object spaced depth ?_
  refine .field spaced (takes_count fits.gatesBefore) rfl rfl ?_
  refine .field spaced (takes_count fits.gatesAfter) rfl rfl ?_
  refine .field spaced (takes_count fits.substitutions) rfl rfl ?_
  refine .field spaced (takes_count fits.merges) rfl rfl ?_
  refine .field spaced (takes_count fits.reflections) rfl rfl ?_
  refine .field spaced (takes_count fits.eliminations) rfl rfl ?_
  refine .field spaced (takes_count fits.iterations) rfl rfl ?_
  exact .nil rfl

theorem Hardware.Costs.taken (spaced : layout.Spaced) (depth : Nat) (costs : Hardware.Costs) :
    Takes Hardware.Costs.reader (layout.writeAt depth costs.json) costs := by
  refine Format.takes_object spaced depth ?_
  refine .field spaced (takes_uint64 costs.z "u64") rfl rfl ?_
  refine .field spaced (takes_uint64 costs.x "u64") rfl rfl ?_
  exact .nil rfl

theorem Hardware.Timing.taken (spaced : layout.Spaced) (depth : Nat) {timing : Hardware.Timing}
    (fits : timing.Fits) :
    Takes Hardware.Timing.reader (layout.writeAt depth timing.json) timing := by
  refine Format.takes_object spaced depth ?_
  refine .field spaced (takes_count fits.zGates) rfl rfl ?_
  refine .field spaced (takes_count fits.xGates) rfl rfl ?_
  refine .field spaced (takes_uint64 timing.zTime "u64") rfl rfl ?_
  refine .field spaced (takes_uint64 timing.xTime "u64") rfl rfl ?_
  refine .field spaced (takes_uint64 timing.total "u64") rfl rfl ?_
  exact .nil rfl

theorem Report.taken (spaced : layout.Spaced) (depth : Nat) {report : Report} (fits : report.Fits) :
    Takes Report.reader (layout.writeAt depth report.json) report := by
  refine Format.takes_object spaced depth ?_
  refine .field spaced (takes_string report.input) rfl rfl ?_
  refine .field spaced (report.xy.taken spaced _) rfl rfl ?_
  refine .field spaced (report.xz.taken spaced _) rfl rfl ?_
  refine .field spaced (Reduction.Tally.taken spaced _ fits.xyTally) rfl rfl ?_
  refine .field spaced (Reduction.Tally.taken spaced _ fits.xzTally) rfl rfl ?_
  refine .field spaced (report.costs.taken spaced _) rfl rfl ?_
  refine .field spaced (Hardware.Timing.taken spaced _ fits.timing) rfl rfl ?_
  refine .field spaced (takes_uint64 report.elapsedMicros "u64") rfl rfl ?_
  exact .nil rfl

/-! ## Whole texts -/

/-- A value is read from what was written for it, also with white space around it. -/
theorem Json.parse_of_taken {α : Type} {reader : Reader α} {before written after : List Char}
    {value : α} {text : String} (taken : Takes reader written value) (front : Spaces before)
    (back : Spaces after) (whole : text.toList = before ++ (written ++ after)) :
    parse reader text = .ok value := by
  have stops : Stops after := by simpa using stops_nil.append back
  have read : reader (before ++ (written ++ after)) = .ok (value, after) := taken.read front stops
  have nothing : skipSpace after = [] := List.dropWhile_eq_nil_iff.mpr back
  rw [parse, whole, Except.mapError_eq_ok_iff, readWhole, read]
  change (if (skipSpace after).isEmpty then _ else _) = _
  rw [nothing]
  rfl

/-- Both layouts are read back, the pretty one also with the line feed that ends it in print. -/
theorem Json.parse_of_layouts {α : Type} {reader : Reader α} {value : α} {json : Value}
    (taken : ∀ layout : Layout, layout.Spaced → Takes reader (layout.writeAt 0 json) value) :
    parse reader json.compact = .ok value ∧ parse reader json.pretty = .ok value ∧
    parse reader (json.pretty ++ "\n") = .ok value := by
  have compact := taken .compact Layout.spaced_compact
  have pretty := taken .pretty Layout.spaced_pretty
  have feed : Spaces ['\n'] := List.forall_mem_cons.mpr ⟨rfl, nofun⟩
  refine ⟨parse_of_taken compact spaces_nil spaces_nil ?_,
    parse_of_taken pretty spaces_nil spaces_nil ?_, parse_of_taken pretty spaces_nil feed ?_⟩
  · rw [Value.compact, String.toList_ofList, List.nil_append, List.append_nil, Layout.write]
  · rw [Value.pretty, String.toList_ofList, List.nil_append, List.append_nil, Layout.write]
  · rw [Value.pretty, String.toList_append, String.toList_ofList, List.nil_append, Layout.write]
    rfl

theorem Circuit.parse_json (circuit : Circuit) :
    Json.parse reader circuit.json.compact = .ok circuit ∧
    Json.parse reader circuit.json.pretty = .ok circuit ∧
    Json.parse reader (circuit.json.pretty ++ "\n") = .ok circuit :=
  parse_of_layouts fun _ spaced => taken spaced 0 circuit

theorem Report.parse_json {report : Report} (fits : report.Fits) :
    Json.parse reader report.json.compact = .ok report ∧
    Json.parse reader report.json.pretty = .ok report ∧
    Json.parse reader (report.json.pretty ++ "\n") = .ok report :=
  parse_of_layouts fun _ spaced => taken spaced 0 fits

/-- Circuits and reports are read back as they were written, on one line and with each item on a
line of its own, and with the line feed that ends a text in print. No text stands for a circuit
without a name and for one with an empty name. -/
theorem json_reads_back :
    (∀ circuit : Circuit,
      parse Circuit.reader circuit.json.compact = .ok circuit ∧
      parse Circuit.reader circuit.json.pretty = .ok circuit ∧
      parse Circuit.reader (circuit.json.pretty ++ "\n") = .ok circuit) ∧
    (∀ report : Report, report.Fits →
      parse Report.reader report.json.compact = .ok report ∧
      parse Report.reader report.json.pretty = .ok report ∧
      parse Report.reader (report.json.pretty ++ "\n") = .ok report) ∧
    (∀ gates : List Gate,
      (Circuit.json ⟨gates, none⟩).compact ≠ (Circuit.json ⟨gates, some ""⟩).compact ∧
      (Circuit.json ⟨gates, none⟩).pretty ≠ (Circuit.json ⟨gates, some ""⟩).pretty) := by
  refine ⟨Circuit.parse_json, fun _ => Report.parse_json, fun gates => ?distinct⟩
  -- Equal texts would be read back as equal circuits.
  obtain ⟨namelessCompact, namelessPretty, _⟩ := Circuit.parse_json ⟨gates, none⟩
  obtain ⟨emptyCompact, emptyPretty, _⟩ := Circuit.parse_json ⟨gates, some ""⟩
  constructor
  · intro same
    rw [same, emptyCompact] at namelessCompact
    cases namelessCompact
  · intro same
    rw [same, emptyPretty] at namelessPretty
    cases namelessPretty

/-- A report with the extremes of everything that is counted, and names that need every kind of
escape. -/
theorem json_reads_back_of_extremes :
    let greatest : Nat := UInt64.size - 1
    let tally : Reduction.Tally := ⟨greatest, 0, 1, greatest, 2, 3, greatest⟩
    let report : Report :=
      { input := "Z(-9223372036854775808)"
        xy := ⟨[.z Int64.minValue, .x Int64.maxValue], some "\"\\/\x08\x0c\n\r\t\x01\x7f é😀"⟩
        xz := ⟨[], some ""⟩
        xyTally := tally
        xzTally := tally
        costs := { z := 0, x := UInt64.ofNat greatest }
        timing := ⟨greatest, 0, UInt64.ofNat greatest, 0, 7⟩
        elapsedMicros := UInt64.ofNat greatest }
    report.Fits ∧
    parse Report.reader report.json.compact = .ok report ∧
    parse Report.reader report.json.pretty = .ok report ∧
    parse Report.reader (report.json.pretty ++ "\n") = .ok report := by
  intro greatest tally report
  have counted : tally.Fits := ⟨by decide, by decide, by decide, by decide, by decide, by decide,
    by decide⟩
  have fits : report.Fits := ⟨counted, counted, ⟨by decide, by decide⟩⟩
  exact ⟨fits, json_reads_back.2.1 report fits⟩

end QubitRotation
