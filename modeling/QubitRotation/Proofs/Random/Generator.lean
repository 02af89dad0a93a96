import Mathlib.Data.List.Range
import Mathlib.Logic.Function.Iterate
import Mathlib.Algebra.Order.Ring.Int
import Mathlib.Tactic.IntervalCases
import QubitRotation.Random.Generator

/-!
# Random circuits of any length

Gate `i` of a circuit is drawn from the state after `i` gates, so the length of the circuit has no
part in it (`gates_eq_map`). A shorter circuit is therefore the beginning of a longer one, which
goes on from the state that the shorter one ends in (`gates_add`), and what holds of every gate that
can be drawn holds of the whole circuit (`exists_of_mem_gates`).

What can be drawn is bounded whatever the words of the source are: `exists_steppedAngle` and
`halfTurnAngle_cases`. The main statements are `shorter_circuits_begin_longer` and
`circuits_stay_in_range`.
-/

namespace QubitRotation.Random

variable {σ : Type}

/-! ## One gate after the other -/

/-- The state after some gates have been drawn. -/
def after (draw : σ → Gate × σ) (count : Nat) : σ → σ := (Prod.snd ∘ draw)^[count]

theorem gates_eq_map (draw : σ → Gate × σ) (length : Nat) (state : σ) :
    gates draw length state =
      (List.range length).map fun index => (draw (after draw index state)).1 := by
  induction length generalizing state with
  | zero => rfl
  | succ length ih =>
      rw [List.range_succ_eq_map, List.map_cons, List.map_map]
      exact congrArg _ (ih _)

theorem length_gates (draw : σ → Gate × σ) (length : Nat) (state : σ) :
    (gates draw length state).length = length := by
  rw [gates_eq_map, List.length_map, List.length_range]

/-- A longer circuit goes on where the shorter one ends. -/
theorem gates_add (draw : σ → Gate × σ) (length more : Nat) (state : σ) :
    gates draw (length + more) state =
      gates draw length state ++ gates draw more (after draw length state) := by
  simp only [gates_eq_map, List.range_add, List.map_append, List.map_map]
  congr 2
  funext index
  rw [Function.comp_apply, after, Nat.add_comm, Function.iterate_add_apply]
  rfl

theorem gates_eq_take (draw : σ → Gate × σ) {length longer : Nat} (le : length ≤ longer)
    (state : σ) : gates draw length state = (gates draw longer state).take length := by
  obtain ⟨more, rfl⟩ := Nat.exists_eq_add_of_le le
  rw [gates_add, List.take_left' (length_gates draw length state)]

theorem exists_of_mem_gates {draw : σ → Gate × σ} {length : Nat} {state : σ} {gate : Gate}
    (member : gate ∈ gates draw length state) : ∃ position, (draw position).1 = gate := by
  rw [gates_eq_map] at member
  obtain ⟨index, _, drawn⟩ := List.mem_map.mp member
  exact ⟨_, drawn⟩

/-- Of two circuits from one seed the shorter is the beginning of the longer, whatever the step is.
This is so for every source of words. -/
theorem shorter_circuits_begin_longer {length longer : Nat} (le : length ≤ longer) :
    (∀ (seed : UInt64) (step : Angle),
      (stepped (.ofSeed seed) step length).size = length ∧
      (stepped (.ofSeed seed) step length).gates =
        (stepped (.ofSeed seed) step longer).gates.take length) ∧
    (∀ seed : UInt64,
      (halfTurns (.ofSeed seed) length).size = length ∧
      (halfTurns (.ofSeed seed) length).gates =
        (halfTurns (.ofSeed seed) longer).gates.take length) ∧
    ∀ {σ : Type} (next : Source σ) (state : σ),
      (∀ step, steppedGates next step length state =
        (steppedGates next step longer state).take length) ∧
      halfTurnGates next length state = (halfTurnGates next longer state).take length :=
  ⟨fun _ _ => ⟨length_gates _ _ _, gates_eq_take _ le _⟩,
    fun _ => ⟨length_gates _ _ _, gates_eq_take _ le _⟩,
    fun _ _ => ⟨fun _ => gates_eq_take _ le _, gates_eq_take _ le _⟩⟩

/-- Two and three gates of one seed. -/
theorem shorter_circuits_begin_longer_of_seed :
    let shorter := (stepped (.ofSeed 99) defaultStep 2).gates
    let longer := (stepped (.ofSeed 99) defaultStep 3).gates
    2 ≤ 3 ∧ longer = [.z 225, .z 180, .x (-270)] ∧
    shorter = longer.take 2 ∧ shorter = [.z 225, .z 180] := by
  intro shorter longer
  have le : 2 ≤ 3 := by decide
  have drawn : longer = [.z 225, .z 180, .x (-270)] := by decide +kernel
  have begins : shorter = longer.take 2 := ((shorter_circuits_begin_longer le).1 99 defaultStep).2
  refine ⟨le, drawn, begins, ?_⟩
  rw [begins, drawn]
  rfl

/-! ## What can be drawn -/

theorem stepSize_pos (step : Angle) : 1 ≤ stepSize step := Nat.le_max_left _ _

theorem stepSize_le (step : Angle) : stepSize step ≤ 360 :=
  Nat.max_le.mpr ⟨by decide, Nat.min_le_right _ _⟩

/-- No multiple of a step that can be drawn is more than a full turn. -/
theorem multiple_within (size : Nat) {index : Int} (low : -↑(360 / size) ≤ index)
    (high : index ≤ ↑(360 / size)) : -360 ≤ index * size ∧ index * size ≤ 360 := by
  have nonneg : (0 : Int) ≤ size := Int.natCast_nonneg size
  have fits : ((360 / size : Nat) : Int) * size ≤ 360 := by
    exact_mod_cast Nat.div_mul_le_self 360 size
  constructor
  · calc
      -360 ≤ -((360 / size : Nat) : Int) * size := by rw [Int.neg_mul]; omega
      _ ≤ index * size := Int.mul_le_mul_of_nonneg_right low nonneg
  · calc
      index * size ≤ ((360 / size : Nat) : Int) * size :=
        Int.mul_le_mul_of_nonneg_right high nonneg
      _ ≤ 360 := fits

theorem steppedAngle_fst (next : Source σ) (size : Nat) (state : σ) :
    (steppedAngle next size state).1 =
      Int64.ofInt (((below next (2 * (360 / size) + 1) state).1 - ↑(360 / size)) * size) := rfl

/-- The drawn index lies between the ends of the range, and its product with the step is exact. -/
theorem exists_steppedAngle (next : Source σ) (size : Nat) (state : σ) :
    ∃ index : Int, -↑(360 / size) ≤ index ∧ index ≤ ↑(360 / size) ∧
      (steppedAngle next size state).1.toInt = index * size := by
  have drawn : (below next (2 * (360 / size) + 1) state).1 < 2 * (360 / size) + 1 :=
    below_lt next (Nat.succ_pos _) state
  rw [steppedAngle_fst]
  generalize (below next (2 * (360 / size) + 1) state).1 = index at drawn ⊢
  have low : -((360 / size : Nat) : Int) ≤ index - ((360 / size : Nat) : Int) := by omega
  have high : index - ((360 / size : Nat) : Int) ≤ ((360 / size : Nat) : Int) := by omega
  obtain ⟨least, greatest⟩ := multiple_within size low high
  exact ⟨_, low, high, Int64.toInt_ofInt_of_le (Int.le_trans (by decide) least)
    (Int.lt_of_le_of_lt greatest (by decide))⟩

theorem halfTurnAngle_fst (next : Source σ) (state : σ) :
    (halfTurnAngle next state).1 =
      if (coin next state).1 then Angle.halfTurn
      else Int64.ofInt (((below next 3 (coin next state).2).1 + 1) * 90) := by
  unfold halfTurnAngle
  generalize coin next state = flip
  cases flip with
  | mk half state => cases half <;> rfl

theorem halfTurnAngle_cases (next : Source σ) (state : σ) :
    let angle := (halfTurnAngle next state).1
    angle = 90 ∨ angle = 180 ∨ angle = 270 := by
  have drawn : (below next 3 (coin next state).2).1 < 3 := below_lt next (by decide) _
  rw [halfTurnAngle_fst]
  generalize (below next 3 (coin next state).2).1 = index at drawn ⊢
  split
  · exact .inr (.inl rfl)
  · interval_cases index
    · exact .inl rfl
    · exact .inr (.inl rfl)
    · exact .inr (.inr rfl)

theorem exists_of_mem_steppedGates {next : Source σ} {step : Angle} {length : Nat} {state : σ}
    {drawn : Gate} (member : drawn ∈ steppedGates next step length state) :
    ∃ index : Int, -↑(360 / stepSize step) ≤ index ∧ index ≤ ↑(360 / stepSize step) ∧
      drawn.angle.toInt = index * stepSize step := by
  obtain ⟨position, rfl⟩ := exists_of_mem_gates member
  exact exists_steppedAngle next (stepSize step) (axis next position).2

theorem angle_of_mem_halfTurnGates {next : Source σ} {length : Nat} {state : σ} {drawn : Gate}
    (member : drawn ∈ halfTurnGates next length state) :
    drawn.angle = 90 ∨ drawn.angle = 180 ∨ drawn.angle = 270 := by
  obtain ⟨position, rfl⟩ := exists_of_mem_gates member
  exact halfTurnAngle_cases next (axis next position).2

/-- A drawn circuit has as many gates as were asked for, whatever the words of the source and the
step are. Angles are multiples of the size of the step, which is at least one degree and at most a
full turn, and lie between minus and plus a full turn: there is a multiple to choose from, and none
of them is cut off. Circuits of half turns have no angles but one, two or three quarter turns. -/
theorem circuits_stay_in_range (next : Source σ) (step : Angle) (length : Nat) (state : σ) :
    let size := max 1 (min step.toInt.natAbs 360)
    let steps := 360 / size
    let stepped := steppedGates next step length state
    let turns := halfTurnGates next length state
    (1 ≤ size ∧ size ≤ 360 ∧ 1 ≤ steps) ∧
    (∀ index : Int, -steps ≤ index → index ≤ steps →
      -360 ≤ index * size ∧ index * size ≤ 360) ∧
    stepped.length = length ∧
    (∀ gate ∈ stepped, (size : Int) ∣ gate.angle.toInt ∧
      -360 ≤ gate.angle.toInt ∧ gate.angle.toInt ≤ 360 ∧
      ∃ index : Int, -steps ≤ index ∧ index ≤ steps ∧ gate.angle.toInt = index * size) ∧
    turns.length = length ∧
    ∀ gate ∈ turns, gate.angle = 90 ∨ gate.angle = 180 ∨ gate.angle = 270 := by
  intro size steps stepped turns
  have positive : 1 ≤ size := stepSize_pos step
  have fits : size ≤ 360 := stepSize_le step
  refine ⟨⟨positive, fits, Nat.div_pos fits positive⟩, fun _ => multiple_within size,
    length_gates _ _ _, ?_, length_gates _ _ _, fun _ => angle_of_mem_halfTurnGates⟩
  intro gate member
  obtain ⟨index, low, high, angle⟩ := exists_of_mem_steppedGates member
  obtain ⟨least, greatest⟩ := multiple_within size low high
  refine ⟨?_, ?_, ?_, index, low, high, angle⟩
  · exact Dvd.intro_left index angle.symm
  · exact least.trans_eq angle.symm
  · exact angle.trans_le greatest

/-- The least number as a step, and a half turn that is no first draw. -/
theorem circuits_stay_in_range_of_least_step :
    let drawn := Gate.z (-360)
    let turned := Gate.y 180
    let indexed : Int := -1
    (drawn ∈ steppedGates Stream.next Int64.minValue 2 (.ofSeed 4) ∧
      (360 : Int) ∣ drawn.angle.toInt ∧ -360 ≤ drawn.angle.toInt ∧ drawn.angle.toInt ≤ 360) ∧
    (-1 ≤ indexed ∧ indexed ≤ 1 ∧ -360 ≤ indexed * 360 ∧ indexed * 360 ≤ 360) ∧
    turned ∈ halfTurnGates Stream.next 3 (.ofSeed 99) ∧
    (turned.angle = 90 ∨ turned.angle = 180 ∨ turned.angle = 270) := by
  intro drawn turned indexed
  have member : drawn ∈ steppedGates Stream.next Int64.minValue 2 (.ofSeed 4) := by
    decide +kernel
  have turns : turned ∈ halfTurnGates Stream.next 3 (.ofSeed 99) := by decide +kernel
  obtain ⟨_, within, _, stepped, _, halfTurns⟩ :=
    circuits_stay_in_range Stream.next Int64.minValue 2 (.ofSeed 4)
  obtain ⟨divides, least, greatest, _⟩ := stepped drawn member
  have low : -1 ≤ indexed := by decide
  have high : indexed ≤ 1 := by decide
  refine ⟨⟨member, divides, least, greatest⟩, ⟨low, high, within indexed low high⟩, turns, ?_⟩
  exact (circuits_stay_in_range Stream.next 0 3 (.ofSeed 99)).2.2.2.2.2 turned turns

end QubitRotation.Random
