import QubitRotation.Proofs.Hardware.RunningTime
import QubitRotation.Proofs.Optimization.Outcome
import QubitRotation.Proofs.Reduction.Rewriting
import QubitRotation.Proofs.Reduction.Runs

/-!
# Reports

A report combines both optimisations and the running time. It is refused for the faults of the
settings alone, of which the first counts (`costs_eq_ok`, `check_eq_ok` and their counterparts);
neither the reductions nor the timing of what they leave can fail after that. What it says is what
the separate operations answer (`Report.Agrees`), although it times the circuit in another way
than `nativeRunningTime` does. `optimize_reports` puts this together.
-/

namespace QubitRotation

open Reduction

namespace Settings

variable {settings : Settings}

/-! ## Valid settings -/

theorem costs_of_costZ (free : settings.costZ = 0) :
    settings.costs = .error (.invalidCost .z 0) := by
  rw [costs, free]
  rfl

theorem costs_of_costX (charged : settings.costZ ≠ 0) (free : settings.costX = 0) :
    settings.costs = .error (.invalidCost .x 0) := by
  have refused : ({ z := settings.costZ, x := settings.costX } : Hardware.Costs).check =
      .error (.invalidCost .x 0) := by
    rw [Hardware.Costs.check, if_neg charged, if_pos free, free]
  rw [costs, Hardware.Costs.checked, refused]
  rfl

theorem costs_eq_ok (chargedZ : settings.costZ ≠ 0) (chargedX : settings.costX ≠ 0) :
    settings.costs = .ok { z := settings.costZ, x := settings.costX } := by
  have accepted : ({ z := settings.costZ, x := settings.costX } : Hardware.Costs).check = .ok () :=
    Hardware.Costs.check_eq_ok_iff.mpr ⟨chargedZ, chargedX⟩
  rw [costs, Hardware.Costs.checked, accepted]
  rfl

theorem check_of_costs {fault : Fault} (refused : settings.costs = .error fault) :
    settings.check = .error fault := by
  rw [check, refused]
  rfl

theorem check_of_factor (chargedZ : settings.costZ ≠ 0) (chargedX : settings.costX ≠ 0)
    (zero : settings.factor = 0) :
    settings.check = .error (.invalidSettings "max_iterations_factor must be > 0") := by
  rw [check, costs_eq_ok chargedZ chargedX]
  exact if_pos zero

theorem check_eq_ok (chargedZ : settings.costZ ≠ 0) (chargedX : settings.costX ≠ 0)
    (positive : settings.factor ≠ 0) : settings.check = .ok () := by
  rw [check, costs_eq_ok chargedZ chargedX]
  exact if_neg positive

theorem check_eq_ok_iff : settings.check = .ok () ↔
    settings.costZ ≠ 0 ∧ settings.costX ≠ 0 ∧ settings.factor ≠ 0 := by
  constructor
  · intro accepted
    have notRefused (fault : Fault) : settings.check ≠ .error fault := by
      rw [accepted]
      exact nofun
    have chargedZ : settings.costZ ≠ 0 := fun free =>
      notRefused _ (check_of_costs (costs_of_costZ free))
    have chargedX : settings.costX ≠ 0 := fun free =>
      notRefused _ (check_of_costs (costs_of_costX chargedZ free))
    exact ⟨chargedZ, chargedX, fun zero => notRefused _ (check_of_factor chargedZ chargedX zero)⟩
  · rintro ⟨chargedZ, chargedX, positive⟩
    exact check_eq_ok chargedZ chargedX positive

/-! ## The parts of a report -/

/-- Settings that are refused are refused before anything is optimised. -/
theorem optimize_of_check {fault : Fault} (refused : settings.check = .error fault)
    (circuit : Circuit) (elapsed : UInt64) : settings.optimize circuit elapsed = .error fault := by
  rw [optimize, refused]
  rfl

theorem optimize_eq_ok {circuit xy xz : Circuit} {costs : Hardware.Costs} {xyTally xzTally : Tally}
    {timing : Hardware.Timing} (accepted : settings.check = .ok ())
    (priced : settings.costs = .ok costs)
    (xyReduced : circuit.reduce settings.factor.toNat = .ok (xy, xyTally))
    (xzReduced : circuit.reduceNative settings.factor.toNat = .ok (xz, xzTally))
    (timed : costs.timing xz = .ok timing) (elapsed : UInt64) :
    settings.optimize circuit elapsed =
      .ok { input := circuit.text, xy, xz, xyTally, xzTally, costs, timing,
            elapsedMicros := elapsed } := by
  rw [optimize, accepted, priced, xyReduced, xzReduced]
  change costs.timing xz >>= _ = _
  rw [timed]
  rfl

theorem nativeRunningTime_eq {circuit native : Circuit} {costs : Hardware.Costs}
    (priced : settings.costs = .ok costs) (optimized : settings.optimizeXZ circuit = .ok native) :
    settings.nativeRunningTime circuit = costs.runningTime native.gates := by
  rw [nativeRunningTime, priced, optimized]
  rfl

end Settings

/-! ## What a report says -/

/-- A report that says what the separate operations answer. -/
structure Report.Agrees (report : Report) (settings : Settings) (circuit : Circuit) : Prop where
  input : report.input = Notation.writeGates circuit.gates
  xy : settings.optimizeXY circuit = .ok report.xy
  xz : settings.optimizeXZ circuit = .ok report.xz
  names : report.xy.name = circuit.name ∧ report.xz.name = circuit.name
  time : settings.nativeRunningTime circuit = .ok report.runningTime
  before : report.xyTally.gatesBefore = circuit.size ∧ report.xzTally.gatesBefore = circuit.size
  after : report.xyTally.gatesAfter = report.xy.size ∧ report.xzTally.gatesAfter = report.xz.size

namespace Settings

variable {settings : Settings} {circuit : Circuit}

/-- Reducing with all axes succeeds, and its tally names the sizes of both circuits. -/
theorem exists_xy (positive : settings.factor ≠ 0) (short : circuit.gates.length < 2 ^ 63) :
    ∃ xy tally, circuit.reduce settings.factor.toNat = .ok (xy, tally) ∧
      settings.optimizeXY circuit = .ok xy ∧ xy.name = circuit.name ∧
      tally.gatesBefore = circuit.size ∧ tally.gatesAfter = xy.size := by
  obtain ⟨tally, converged⟩ := run_converged_of_factor positive short
  obtain ⟨before, after, _⟩ := sizes_of_converged converged
  have reduced := Circuit.reduce_of_converged converged
  refine ⟨_, tally, reduced, ?_, Circuit.withGates_name .., before, ?_⟩
  · rw [optimizeXY, reduced]
    rfl
  · rw [Circuit.size_withGates, after]

/-- So does reducing for the hardware, which leaves no rotation about Y. -/
theorem exists_xz (positive : settings.factor ≠ 0)
    (short : (expandAll circuit.gates).length < 2 ^ 63) :
    ∃ xz tally, circuit.reduceNative settings.factor.toNat = .ok (xz, tally) ∧
      settings.optimizeXZ circuit = .ok xz ∧ xz.name = circuit.name ∧
      tally.gatesBefore = circuit.size ∧ tally.gatesAfter = xz.size ∧
      ∀ gate ∈ xz.gates, gate.axis ≠ .y := by
  obtain ⟨tally, converged⟩ := runNative_converged_of_factor positive short
  obtain ⟨before, after, _⟩ := sizes_of_native_converged converged
  have reduced := Circuit.reduceNative_of_converged converged
  refine ⟨_, tally, reduced, ?_, Circuit.withGates_name .., before, ?_, ?_⟩
  · rw [optimizeXZ, reduced]
    rfl
  · rw [Circuit.size_withGates, after]
  · rw [Circuit.withGates_gates]
    exact native_runNative _ _

/-- Valid settings always lead to a report that agrees with the separate operations. -/
theorem exists_report (chargedZ : settings.costZ ≠ 0) (chargedX : settings.costX ≠ 0)
    (positive : settings.factor ≠ 0) (short : (expandAll circuit.gates).length < 2 ^ 63)
    (elapsed : UInt64) :
    ∃ report, settings.optimize circuit elapsed = .ok report ∧ report.Agrees settings circuit ∧
      report.elapsedMicros = elapsed := by
  have priced := costs_eq_ok chargedZ chargedX
  have accepted := check_eq_ok chargedZ chargedX positive
  obtain ⟨xy, xyTally, xyReduced, xyOptimized, xyName, xyBefore, xyAfter⟩ :=
    exists_xy positive (Nat.lt_of_le_of_lt (length_le_expandAll circuit.gates) short)
  obtain ⟨xz, xzTally, xzReduced, xzOptimized, xzName, xzBefore, xzAfter, native⟩ :=
    exists_xz positive short
  obtain ⟨timing, timed⟩ :=
    Hardware.Costs.timing_of_native { z := settings.costZ, x := settings.costX } native
  refine ⟨_, optimize_eq_ok accepted priced xyReduced xzReduced timed elapsed, ?_, rfl⟩
  exact {
    input := rfl
    xy := xyOptimized
    xz := xzOptimized
    names := ⟨xyName, xzName⟩
    time := by
      rw [nativeRunningTime_eq priced xzOptimized, Hardware.Costs.runningTime_eq_total, timed]
      rfl
    before := ⟨xyBefore, xzBefore⟩
    after := ⟨xyAfter, xzAfter⟩ }

end Settings

/-- The full report, however long it took. It is refused exactly for settings with a cost or a
factor of zero, with the first of these faults; no other fault ever occurs. Otherwise there is a
report, and it agrees with the separate operations. -/
theorem optimize_reports (settings : Settings) (circuit : Circuit) (elapsed : UInt64) :
    (settings.costZ = 0 → settings.optimize circuit elapsed = .error (.invalidCost .z 0)) ∧
    (settings.costZ ≠ 0 → settings.costX = 0 →
      settings.optimize circuit elapsed = .error (.invalidCost .x 0)) ∧
    (settings.costZ ≠ 0 → settings.costX ≠ 0 → settings.factor = 0 →
      settings.optimize circuit elapsed =
        .error (.invalidSettings "max_iterations_factor must be > 0")) ∧
    ((expandAll circuit.gates).length < 2 ^ 63 →
      ((∃ fault, settings.optimize circuit elapsed = .error fault) ↔
        settings.costZ = 0 ∨ settings.costX = 0 ∨ settings.factor = 0) ∧
      (settings.costZ ≠ 0 → settings.costX ≠ 0 → settings.factor ≠ 0 →
        ∃ report, settings.optimize circuit elapsed = .ok report ∧
          report.Agrees settings circuit ∧ report.elapsedMicros = elapsed)) := by
  have freeZ (free : settings.costZ = 0) :=
    Settings.optimize_of_check (Settings.check_of_costs (Settings.costs_of_costZ free)) circuit
      elapsed
  have freeX (charged : settings.costZ ≠ 0) (free : settings.costX = 0) :=
    Settings.optimize_of_check
      (Settings.check_of_costs (Settings.costs_of_costX charged free)) circuit elapsed
  have noFactor (chargedZ : settings.costZ ≠ 0) (chargedX : settings.costX ≠ 0)
      (zero : settings.factor = 0) :=
    Settings.optimize_of_check (Settings.check_of_factor chargedZ chargedX zero) circuit elapsed
  refine ⟨freeZ, freeX, noFactor, fun short => ⟨⟨?refused, ?refuses⟩, ?reports⟩⟩
  case refused =>
    rintro ⟨fault, refused⟩
    by_contra valid
    simp only [not_or] at valid
    obtain ⟨chargedZ, chargedX, positive⟩ := valid
    obtain ⟨report, reported, _⟩ :=
      Settings.exists_report chargedZ chargedX positive short elapsed
    rw [reported] at refused
    cases refused
  case refuses =>
    intro invalid
    by_cases free : settings.costZ = 0
    · exact ⟨_, freeZ free⟩
    by_cases freeToo : settings.costX = 0
    · exact ⟨_, freeX free freeToo⟩
    · obtain zero | zero | zero := invalid
      · exact absurd zero free
      · exact absurd zero freeToo
      · exact ⟨_, noFactor free freeToo zero⟩
  case reports =>
    intro chargedZ chargedX positive
    exact Settings.exists_report chargedZ chargedX positive short elapsed

/-- A circuit that takes two rotations about Z and one about X, and the three faults in their
order, each hiding those after it. -/
theorem optimize_reports_of_turns :
    let circuit : Circuit := ⟨[.y 180, .x 90, .z 45], some "turns"⟩
    let valid : Settings := { costZ := 2, costX := 5 }
    let freeZ : Settings := { costZ := 0, costX := 0, factor := 0 }
    let freeX : Settings := { costZ := 2, costX := 0, factor := 0 }
    let noFactor : Settings := { costZ := 2, costX := 5, factor := 0 }
    (valid.costZ ≠ 0 ∧ valid.costX ≠ 0 ∧ valid.factor ≠ 0 ∧
      (expandAll circuit.gates).length < 2 ^ 63 ∧
      ∃ report, valid.optimize circuit 35 = .ok report ∧ report.Agrees valid circuit ∧
        report.elapsedMicros = 35 ∧ report.runningTime = 9) ∧
    freeZ.optimize circuit 35 = .error (.invalidCost .z 0) ∧
    freeX.optimize circuit 35 = .error (.invalidCost .x 0) ∧
    noFactor.optimize circuit 35 =
      .error (.invalidSettings "max_iterations_factor must be > 0") := by
  intro circuit valid freeZ freeX noFactor
  have short : (expandAll circuit.gates).length < 2 ^ 63 := by
    change 5 < 2 ^ 63
    omega
  have chargedZ : valid.costZ ≠ 0 := by decide
  have chargedX : valid.costX ≠ 0 := by decide
  have positive : valid.factor ≠ 0 := by decide
  obtain ⟨report, reported, agrees, elapsed⟩ :=
    ((optimize_reports valid circuit 35).2.2.2 short).2 chargedZ chargedX positive
  have nine : valid.nativeRunningTime circuit = .ok 9 := by decide +kernel
  have time : report.runningTime = 9 := Except.ok.inj (agrees.time.symm.trans nine)
  exact ⟨⟨chargedZ, chargedX, positive, short, report, reported, agrees, elapsed, time⟩,
    (optimize_reports freeZ circuit 35).1 rfl,
    (optimize_reports freeX circuit 35).2.1 chargedZ rfl,
    (optimize_reports noFactor circuit 35).2.2.1 chargedZ chargedX rfl⟩

end QubitRotation
