/-!
# Drawing numbers below a bound

A source of words is a state with a step that gives a word and the state after it. To draw a
number below a bound, a word is multiplied by the bound: the upper half of the product is the
result, and the word is rejected if the lower half lies above the largest multiple of the bound
by a power of two that fits. Fewer than half of all words are rejected.

Whatever the words are, the result lies below the bound. A source that could be rejected for
ever is cut short: behind `patience` words that are rejected, the next one is taken as it comes.
Where one of them is accepted, the number is the one that would be drawn without the cut
(`below_eq_of_draws`).
-/

namespace QubitRotation.Random

/-- The step of a source of words. -/
abbrev Source (σ : Type) := σ → UInt64 × σ

/-- How many words may be rejected for one number. -/
def patience : Nat := 4096

/-- The largest lower half of a product for which the word is accepted. -/
def zone (bound : Nat) : Nat := (bound <<< (63 - bound.log2)) - 1

/-- Draws a number below a bound, rejecting at most `tries` words. -/
def belowWithin {σ : Type} (next : Source σ) (bound : Nat) : (tries : Nat) → σ → Nat × σ
  | 0, state =>
      let (word, state) := next state
      (word.toNat * bound / UInt64.size, state)
  | tries + 1, state =>
      let (word, state) := next state
      let product := word.toNat * bound
      if product % UInt64.size ≤ zone bound then (product / UInt64.size, state)
      else belowWithin next bound tries state

/-- Draws a number below a bound. -/
def below {σ : Type} (next : Source σ) (bound : Nat) (state : σ) : Nat × σ :=
  belowWithin next bound patience state

/-- Draws one of two equally likely answers. -/
def coin {σ : Type} (next : Source σ) (state : σ) : Bool × σ :=
  let (word, state) := next state
  (word < 0x8000000000000000, state)

theorem belowWithin_lt {σ : Type} (next : Source σ) {bound : Nat} (positive : 0 < bound)
    (tries : Nat) (state : σ) : (belowWithin next bound tries state).1 < bound := by
  have upper (word : UInt64) : word.toNat * bound / UInt64.size < bound := by
    rw [Nat.div_lt_iff_lt_mul (by decide), Nat.mul_comm]
    exact Nat.mul_lt_mul_of_pos_left word.toNat_lt positive
  induction tries generalizing state with
  | zero => exact upper _
  | succ tries ih =>
      simp only [belowWithin]
      split
      · exact upper _
      · exact ih _

/-- Drawing without the cut: words are rejected, as many as it takes, and then one is accepted. -/
inductive Draws {σ : Type} (next : Source σ) (bound : Nat) : (rejected : Nat) → σ → Nat × σ → Prop
  | accept {state : σ} (fits : (next state).1.toNat * bound % UInt64.size ≤ zone bound) :
      Draws next bound 0 state ((next state).1.toNat * bound / UInt64.size, (next state).2)
  | reject {rejected : Nat} {state : σ} {result : Nat × σ}
      (above : zone bound < (next state).1.toNat * bound % UInt64.size)
      (later : Draws next bound rejected (next state).2 result) :
      Draws next bound (rejected + 1) state result

theorem belowWithin_eq_of_draws {σ : Type} {next : Source σ} {bound rejected tries : Nat}
    {state : σ} {result : Nat × σ} (drawn : Draws next bound rejected state result)
    (few : rejected ≤ tries) : belowWithin next bound tries state = result := by
  induction drawn generalizing tries with
  | accept fits =>
      cases tries with
      | zero => rfl
      | succ tries => exact if_pos fits
  | reject above _ ih =>
      cases tries with
      | zero => cases few
      | succ tries =>
          refine Eq.trans (if_neg (Nat.not_le_of_lt above)) ?_
          exact ih (Nat.le_of_succ_le_succ few)

/-- The cut is not reached if one of the first words is accepted. -/
theorem below_eq_of_draws {σ : Type} {next : Source σ} {bound rejected : Nat} {state : σ}
    {result : Nat × σ} (drawn : Draws next bound rejected state result)
    (few : rejected ≤ patience) : below next bound state = result :=
  belowWithin_eq_of_draws drawn few

/-- A drawn number lies below its bound, whatever the source gives. -/
theorem below_lt {σ : Type} (next : Source σ) {bound : Nat} (positive : 0 < bound) (state : σ) :
    (below next bound state).1 < bound :=
  belowWithin_lt next positive patience state

end QubitRotation.Random
