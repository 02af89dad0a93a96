import QubitRotation.Hardware.Timing
import QubitRotation.Proofs.Capped

/-!
# The two ways to time a sequence

Adding up gate by gate and counting the gates of each axis give the same running time: the exact
one, cut off once (`Costs.exactTime`). Where the sequence has a rotation about Y both name the
first one. `runningTime_eq_total` is what both amount to together; `times_agree` adds what the time
does and does not depend on.
-/

namespace QubitRotation.Hardware.Costs

/-- The running time of a sequence about X and Z before it is cut off. -/
def exactTime (costs : Costs) (gates : List Gate) : Nat :=
  costs.z.toNat * gates.countP (·.axis = .z) + costs.x.toNat * gates.countP (·.axis = .x)

variable (costs : Costs)

theorem exactTime_nil : costs.exactTime [] = 0 := by
  rw [exactTime, List.countP_nil, List.countP_nil, Nat.mul_zero, Nat.mul_zero]

theorem exactTime_z (angle : Angle) (gates : List Gate) :
    costs.exactTime (⟨.z, angle⟩ :: gates) = costs.z.toNat + costs.exactTime gates := by
  rw [exactTime, List.countP_cons_of_pos rfl, List.countP_cons_of_neg Bool.false_ne_true,
    Nat.mul_succ, exactTime]
  omega

theorem exactTime_x (angle : Angle) (gates : List Gate) :
    costs.exactTime (⟨.x, angle⟩ :: gates) = costs.x.toNat + costs.exactTime gates := by
  rw [exactTime, List.countP_cons_of_neg Bool.false_ne_true, List.countP_cons_of_pos rfl,
    Nat.mul_succ, exactTime]
  omega

/-- The outcome of timing a sequence to which both ways lead, on top of a given time. -/
def timed (costs : Costs) (time : UInt64) (gates : List Gate) : Except Fault UInt64 :=
  match gates.find? (!·.isNative) with
  | some gate => .error (.notNative gate)
  | none => .ok (UInt64.ofNat (Capped.cap (time.toNat + costs.exactTime gates)))

/-- Cutting off after every gate is cutting off once. -/
theorem addTimes_eq (time : UInt64) (gates : List Gate) :
    costs.addTimes time gates = costs.timed time gates := by
  induction gates generalizing time with
  | nil =>
      rw [timed, List.find?_nil, exactTime_nil, Nat.add_zero, Capped.ofNat_cap_toNat]
      rfl
  | cons gate gates ih =>
      obtain ⟨axis, angle⟩ := gate
      cases axis with
      | x =>
          -- The hypothesis starts from a time that is already cut off; the later cut hides it.
          have later := ih (Capped.addWords time costs.x)
          rw [timed, Capped.toNat_addWords, Capped.cap_cap_add, Nat.add_assoc] at later
          rw [timed, List.find?_cons_of_neg Bool.false_ne_true, exactTime_x]
          exact later
      | y =>
          rw [timed, List.find?_cons_of_pos rfl]
          rfl
      | z =>
          have later := ih (Capped.addWords time costs.z)
          rw [timed, Capped.toNat_addWords, Capped.cap_cap_add, Nat.add_assoc] at later
          rw [timed, List.find?_cons_of_neg Bool.false_ne_true, exactTime_z]
          exact later

theorem runningTime_eq (gates : List Gate) : costs.runningTime gates = costs.timed 0 gates :=
  costs.addTimes_eq 0 gates

theorem map_total_timing (circuit : Circuit) :
    (costs.timing circuit).map Timing.total = costs.timed 0 circuit.gates := by
  rw [timing, timed, Circuit.firstNonNative?]
  cases circuit.gates.find? (!·.isNative) with
  | some gate => rfl
  | none =>
      change Except.ok (Capped.addWords (Capped.mulWord costs.z (circuit.countAbout .z))
        (Capped.mulWord costs.x (circuit.countAbout .x))) = _
      rw [Capped.addWords_mulWord, UInt64.toNat_zero, Nat.zero_add]
      rfl

/-- The two ways agree, on the time and on what makes timing impossible. -/
theorem runningTime_eq_total (circuit : Circuit) :
    costs.runningTime circuit.gates = (costs.timing circuit).map Timing.total := by
  rw [runningTime_eq, map_total_timing]

/-! ## Sequences without rotations about Y -/

theorem find?_of_native {gates : List Gate} (native : ∀ gate ∈ gates, gate.axis ≠ .y) :
    gates.find? (!·.isNative) = none := by
  rw [List.find?_eq_none]
  intro gate member
  have executable : gate.isNative = true := Axis.isNative_iff.mpr (native gate member)
  rw [executable]
  exact nofun

/-- Without rotations about Y there is a running time. -/
theorem timing_of_native {circuit : Circuit} (native : ∀ gate ∈ circuit.gates, gate.axis ≠ .y) :
    ∃ timing, costs.timing circuit = .ok timing := by
  rw [timing, Circuit.firstNonNative?, find?_of_native native]
  exact ⟨_, rfl⟩

/-- It is the exact one, cut off. -/
theorem runningTime_of_native {gates : List Gate} (native : ∀ gate ∈ gates, gate.axis ≠ .y) :
    costs.runningTime gates = .ok (UInt64.ofNat (Capped.cap (costs.exactTime gates))) := by
  rw [runningTime_eq, timed, find?_of_native native, UInt64.toNat_zero, Nat.zero_add]

/-- Fewer gates about each axis take no more time. -/
theorem exactTime_mono {gates more : List Gate}
    (fewer : ∀ axis, gates.countP (·.axis = axis) ≤ more.countP (·.axis = axis)) :
    costs.exactTime gates ≤ costs.exactTime more :=
  Nat.add_le_add (Nat.mul_le_mul_left _ (fewer .z)) (Nat.mul_le_mul_left _ (fewer .x))

/-- Neither do the same gates at lower costs. -/
theorem exactTime_mono_costs {costs dearer : Costs} (dearerZ : costs.z ≤ dearer.z)
    (dearerX : costs.x ≤ dearer.x) (gates : List Gate) :
    costs.exactTime gates ≤ dearer.exactTime gates := by
  rw [UInt64.le_iff_toNat_le] at dearerZ dearerX
  exact Nat.add_le_add (Nat.mul_le_mul_right _ dearerZ) (Nat.mul_le_mul_right _ dearerX)

/-- Without rotations about Y every gate turns about one of the two other axes. -/
theorem countP_add_countP_of_native {gates : List Gate}
    (native : ∀ gate ∈ gates, gate.axis ≠ .y) :
    gates.countP (·.axis = .z) + gates.countP (·.axis = .x) = gates.length := by
  rw [List.length_eq_countP_add_countP (·.axis = .z)]
  congr 1
  apply List.countP_congr
  intro gate member
  have notY := native gate member
  cases about : gate.axis with
  | x => decide
  | y => exact absurd about notY
  | z => decide

end Costs

/-! ## Exact timings -/

/-- The timing of a circuit about X and Z under some costs: its gates are counted by axis, and each
time is the exact one, cut off once at the largest word. -/
structure Timing.Exact (costs : Costs) (circuit : Circuit) (timing : Timing) : Prop where
  zGates : timing.zGates = circuit.countAbout .z
  xGates : timing.xGates = circuit.countAbout .x
  size : timing.zGates + timing.xGates = circuit.size
  zTime : timing.zTime.toNat = min (costs.z.toNat * circuit.countAbout .z) (UInt64.size - 1)
  xTime : timing.xTime.toNat = min (costs.x.toNat * circuit.countAbout .x) (UInt64.size - 1)
  total : timing.total.toNat =
    min (costs.z.toNat * circuit.countAbout .z + costs.x.toNat * circuit.countAbout .x)
      (UInt64.size - 1)

namespace Costs

variable {costs : Costs} {circuit : Circuit}

theorem timing_eq_of_native (native : ∀ gate ∈ circuit.gates, gate.axis ≠ .y) :
    costs.timing circuit = .ok {
      zGates := circuit.countAbout .z
      xGates := circuit.countAbout .x
      zTime := Capped.mulWord costs.z (circuit.countAbout .z)
      xTime := Capped.mulWord costs.x (circuit.countAbout .x)
      total := UInt64.ofNat (Capped.cap (costs.exactTime circuit.gates)) } := by
  rw [timing, Circuit.firstNonNative?, find?_of_native native]
  dsimp only
  rw [Capped.addWords_mulWord]
  rfl

/-- Without rotations about Y the timing is exact, and its total is the running time. -/
theorem exists_exact_timing (costs : Costs)
    (native : ∀ gate ∈ circuit.gates, gate.axis ≠ .y) :
    ∃ timing, costs.timing circuit = .ok timing ∧ timing.Exact costs circuit ∧
      costs.runningTime circuit.gates = .ok timing.total := by
  refine ⟨_, timing_eq_of_native native, ?exact, costs.runningTime_of_native native⟩
  case exact =>
    exact {
      zGates := rfl
      xGates := rfl
      size := countP_add_countP_of_native native
      zTime := Capped.toNat_mulWord _ _
      xTime := Capped.toNat_mulWord _ _
      total := Capped.toNat_ofNat_cap _ }

/-! ## Other orders and other angles -/

/-- The axes of the gates, in any order, decide how many gates there are about each. -/
theorem countP_axis_of_perm {gates other : List Gate}
    (reordered : (other.map Gate.axis).Perm (gates.map Gate.axis)) (axis : Axis) :
    other.countP (·.axis = axis) = gates.countP (·.axis = axis) := by
  have counts := reordered.countP_eq (· = axis)
  rwa [List.countP_map, List.countP_map] at counts

theorem native_of_perm {gates other : List Gate}
    (reordered : (other.map Gate.axis).Perm (gates.map Gate.axis))
    (native : ∀ gate ∈ gates, gate.axis ≠ .y) : ∀ gate ∈ other, gate.axis ≠ .y := by
  intro gate member aboutY
  have listed : gate.axis ∈ gates.map Gate.axis :=
    reordered.mem_iff.mp (List.mem_map_of_mem member)
  obtain ⟨same, present, about⟩ := List.mem_map.mp listed
  exact native same present (about.trans aboutY)

/-- Neither the order of the gates nor their angles matter. -/
theorem timing_of_perm {other : Circuit}
    (reordered : (other.gates.map Gate.axis).Perm (circuit.gates.map Gate.axis))
    (native : ∀ gate ∈ circuit.gates, gate.axis ≠ .y) :
    costs.timing other = costs.timing circuit := by
  have counts (axis : Axis) : other.countAbout axis = circuit.countAbout axis :=
    countP_axis_of_perm reordered axis
  have exact : costs.exactTime other.gates = costs.exactTime circuit.gates := by
    rw [exactTime, exactTime, countP_axis_of_perm reordered, countP_axis_of_perm reordered]
  rw [timing_eq_of_native native, timing_eq_of_native (native_of_perm reordered native), counts,
    counts, exact]

/-! ## Sequences with rotations about Y -/

/-- With a rotation about Y both ways name the first one. -/
theorem refused_of_y (present : ∃ gate ∈ circuit.gates, gate.axis = .y) :
    ∃ before gate after, circuit.gates = before ++ gate :: after ∧
      (∀ gate ∈ before, gate.axis ≠ .y) ∧ gate.axis = .y ∧
      costs.runningTime circuit.gates = .error (.notNative gate) ∧
      costs.timing circuit = .error (.notNative gate) := by
  obtain ⟨other, member, about⟩ := present
  cases found : circuit.gates.find? (!·.isNative) with
  | none =>
      have executable := List.find?_eq_none.mp found other member
      rw [Gate.isNative, about] at executable
      exact absurd rfl executable
  | some gate =>
      obtain ⟨foreign, before, after, split, native⟩ := List.find?_eq_some_iff_append.mp found
      refine ⟨before, gate, after, split, ?native, ?aboutY, ?added, ?counted⟩
      case aboutY =>
        apply Decidable.byContradiction
        intro notY
        have executable : gate.isNative = true := Axis.isNative_iff.mpr notY
        rw [executable] at foreign
        cases foreign
      case native =>
        intro gate member
        have executable := native gate member
        rw [Bool.not_not] at executable
        exact Axis.isNative_iff.mp executable
      case added => rw [runningTime_eq, timed, found]
      case counted => rw [timing, Circuit.firstNonNative?, found]

end Costs

/-- The two ways to time a circuit agree and are exact, under any costs. Without rotations about Y
both give the exact time, cut off once, whichever intermediate sums and products were cut off
before. The time depends neither on the order of the gates nor on their angles, and it does not
sink as costs rise. With a rotation about Y both refuse the circuit and name the first one. -/
theorem times_agree (costs : Costs) (circuit : Circuit) :
    ((∀ gate ∈ circuit.gates, gate.axis ≠ .y) →
      ∃ timing, costs.timing circuit = .ok timing ∧ timing.Exact costs circuit ∧
        costs.runningTime circuit.gates = .ok timing.total ∧
        (∀ other : Circuit, (other.gates.map Gate.axis).Perm (circuit.gates.map Gate.axis) →
          costs.timing other = .ok timing ∧
          costs.runningTime other.gates = .ok timing.total) ∧
        ∀ dearer : Costs, costs.z ≤ dearer.z → costs.x ≤ dearer.x →
          ∃ later, dearer.runningTime circuit.gates = .ok later ∧ timing.total ≤ later) ∧
    ((∃ gate ∈ circuit.gates, gate.axis = .y) →
      ∃ before gate after, circuit.gates = before ++ gate :: after ∧
        (∀ gate ∈ before, gate.axis ≠ .y) ∧ gate.axis = .y ∧
        costs.runningTime circuit.gates = .error (.notNative gate) ∧
        costs.timing circuit = .error (.notNative gate)) := by
  refine ⟨?timed, Costs.refused_of_y⟩
  case timed =>
    intro native
    obtain ⟨timing, timed, exact, agrees⟩ := costs.exists_exact_timing native
    refine ⟨timing, timed, exact, agrees, ?reordered, ?dearer⟩
    case reordered =>
      intro other reordered
      have alsoTimed := (Costs.timing_of_perm reordered native).trans timed
      refine ⟨alsoTimed, ?_⟩
      rw [costs.runningTime_eq_total, alsoTimed]
      rfl
    case dearer =>
      intro dearer dearerZ dearerX
      refine ⟨_, dearer.runningTime_of_native native, ?_⟩
      rw [costs.runningTime_of_native native] at agrees
      rw [← Except.ok.inj agrees]
      exact Capped.ofNat_cap_mono (Costs.exactTime_mono_costs dearerZ dearerX circuit.gates)

/-- Two rotations about Z are too much for one word, and rotations about X cost nothing. The last
circuit has two rotations about Y. -/
theorem times_agree_of_turns :
    let costs : Costs := { z := 9223372036854775808, x := 0 }
    let dearer : Costs := { z := 9223372036854775809, x := 35 }
    let circuit : Circuit := ⟨[.z 10, .x 90, .z (-45), .x 3], none⟩
    let sorted : Circuit := ⟨[.x 1, .x 2, .z 3, .z 400], some "sorted"⟩
    let foreign : Circuit := ⟨[.x 90, .y 45, .z 1, .y 2], none⟩
    (∀ gate ∈ circuit.gates, gate.axis ≠ .y) ∧
    (sorted.gates.map Gate.axis).Perm (circuit.gates.map Gate.axis) ∧
    costs.z ≤ dearer.z ∧ costs.x ≤ dearer.x ∧
    (∃ timing, costs.timing circuit = .ok timing ∧ timing.zGates + timing.xGates = 4 ∧
      timing.total.toNat = UInt64.size - 1 ∧
      costs.runningTime sorted.gates = .ok timing.total ∧
      ∃ later, dearer.runningTime circuit.gates = .ok later ∧ timing.total ≤ later) ∧
    (∃ gate ∈ foreign.gates, gate.axis = .y) ∧
    ∃ before gate after, foreign.gates = before ++ gate :: after ∧
      (∀ gate ∈ before, gate.axis ≠ .y) ∧ gate.axis = .y ∧
      costs.runningTime foreign.gates = .error (.notNative gate) ∧
      costs.timing foreign = .error (.notNative gate) := by
  intro costs dearer circuit sorted foreign
  have native : ∀ gate ∈ circuit.gates, gate.axis ≠ .y := by decide
  have reordered : (sorted.gates.map Gate.axis).Perm (circuit.gates.map Gate.axis) := by decide
  have dearerZ : costs.z ≤ dearer.z := by decide
  have dearerX : costs.x ≤ dearer.x := by decide
  have present : ∃ gate ∈ foreign.gates, gate.axis = .y := by decide
  obtain ⟨timing, timed, exact, _, again, later⟩ := (times_agree costs circuit).1 native
  have total : timing.total.toNat = UInt64.size - 1 := exact.total.trans (by decide)
  exact ⟨native, reordered, dearerZ, dearerX,
    ⟨timing, timed, exact.size, total, (again sorted reordered).2, later dearer dearerZ dearerX⟩,
    present, (times_agree costs foreign).2 present⟩

end QubitRotation.Hardware
