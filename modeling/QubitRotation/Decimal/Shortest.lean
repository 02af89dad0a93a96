/-!
# The shortest decimal of a binary floating-point number

A finite number other than zero is `mantissa * 2 ^ exponent`. Its neighbours halve the distance
to it, which gives the interval of the reals that round to it; the ends belong to it if the
mantissa is even. The shortest decimal is the point of the coarsest decimal grid that meets the
interval, the nearer one of two, and of two equally near ones the even one.

All comparisons are made between natural numbers, after both sides have been multiplied by the
powers of two and ten that clear their denominators.
-/

namespace QubitRotation.Decimal

/-- A number `digits * 10 ^ exponent`. -/
structure Shortest where
  digits : Nat
  exponent : Int
  deriving DecidableEq, Repr

/-- The leading bit of a full mantissa, which a double-precision number does not store. -/
def hiddenBit : Nat := 0x10000000000000

/-- A power of ten. -/
def powerOfTen (exponent : Nat) : Nat := Nat.pow 10 exponent

/-- The positive numbers that a binary number stands for, in quarters of its last place:
between `low` and `high`, around `middle`, each to be multiplied by `2 ^ scale`. -/
structure Interval where
  low : Nat
  middle : Nat
  high : Nat
  scale : Int
  closed : Bool

/-- The numbers that round to `mantissa * 2 ^ exponent`. Below a power of two the numbers lie
twice as close, unless the power is the least one. -/
def Interval.around (mantissa : Nat) (exponent : Int) (leastExponent : Int) : Interval where
  low := if mantissa = hiddenBit ∧ leastExponent < exponent then 4 * mantissa - 1
    else 4 * mantissa - 2
  middle := 4 * mantissa
  high := 4 * mantissa + 2
  scale := exponent - 2
  closed := mantissa % 2 = 0

namespace Interval

/-- A bound of the interval, made comparable with points of the grid `10 ^ exponent`. -/
def scaled (interval : Interval) (exponent : Int) (bound : Nat) : Nat :=
  (bound <<< interval.scale.toNat) * powerOfTen (-exponent).toNat

/-- A point of the grid `10 ^ exponent`, made comparable with bounds of the interval. -/
def point (interval : Interval) (exponent : Int) (digits : Nat) : Nat :=
  (digits * powerOfTen exponent.toNat) <<< (-interval.scale).toNat

/-- Whether a point of the grid lies in the interval. -/
def meets (interval : Interval) (exponent : Int) (digits : Nat) : Bool :=
  let point := interval.point exponent digits
  let low := interval.scaled exponent interval.low
  let high := interval.scaled exponent interval.high
  if interval.closed then low ≤ point && point ≤ high else low < point && point < high

/-- The point of the grid in the interval that is nearest to its middle. -/
def nearest? (interval : Interval) (exponent : Int) : Option Nat :=
  let middle := interval.scaled exponent interval.middle
  let below := middle / interval.point exponent 1
  let above := below + 1
  match interval.meets exponent below, interval.meets exponent above with
  | true, false => some below
  | false, true => some above
  | false, false => none
  | true, true =>
      let toBelow := middle - interval.point exponent below
      let toAbove := interval.point exponent above - middle
      if toBelow < toAbove ∨ (toBelow = toAbove ∧ below % 2 = 0) then some below else some above

/-- The point of the coarsest grid that meets the interval, from the grid `10 ^ exponent` on
through `grids` finer ones. -/
def coarsest? (interval : Interval) (exponent : Int) : (grids : Nat) → Option Shortest
  | 0 => none
  | grids + 1 =>
      match interval.nearest? exponent with
      | some digits => some ⟨digits, exponent⟩
      | none => interval.coarsest? (exponent - 1) grids

end Interval

/-- The mantissa and the exponent of the magnitude of a double-precision number. -/
def parts (bits : UInt64) : Nat × Int :=
  let fraction := bits.toNat % hiddenBit
  let biased := bits.toNat / hiddenBit % 2048
  if biased = 0 then (fraction, -1074) else (hiddenBit + fraction, Int.ofNat biased - 1075)

/-- The shortest decimal of the magnitude of a finite number other than zero. -/
def shortest? (bits : UInt64) : Option Shortest :=
  let (mantissa, exponent) := parts bits
  (Interval.around mantissa exponent (-1074)).coarsest? 309 650

/-- How shortest decimals are written. -/
structure Form where
  /-- The least power of ten of a first digit that is written in positional notation. -/
  leastPositional : Int
  /-- The greatest one. -/
  greatestPositional : Int

/-- The exponent of scientific notation, always with its sign. -/
def exponentText (exponent : Int) : String :=
  let sign := if exponent < 0 then "-" else "+"
  s!"e{sign}{exponent.natAbs}"

/-- A decimal in positional notation, with at least one digit on either side of the point. -/
def positional (decimal : Shortest) : String :=
  let digits := (toString decimal.digits).toList
  let whole := digits.length + decimal.exponent
  if 0 ≤ decimal.exponent then
    String.ofList (digits ++ List.replicate decimal.exponent.toNat '0') ++ ".0"
  else if 0 < whole then
    String.ofList (digits.take whole.toNat ++ ['.'] ++ digits.drop whole.toNat)
  else
    "0." ++ String.ofList (List.replicate (-whole).toNat '0' ++ digits)

/-- A decimal in scientific notation. -/
def scientific (decimal : Shortest) (exponent : Int) : String :=
  match (toString decimal.digits).toList with
  | [] => ""
  | [digit] => String.ofList [digit] ++ exponentText exponent
  | digit :: digits => String.ofList (digit :: '.' :: digits) ++ exponentText exponent

/-- A decimal in the notation that its size calls for. -/
def Form.write (form : Form) (decimal : Shortest) : String :=
  let first := decimal.exponent + (toString decimal.digits).length - 1
  if form.leastPositional ≤ first ∧ first ≤ form.greatestPositional then positional decimal
  else scientific decimal first

/-- A finite number as text; zero keeps its sign. -/
def Form.text (form : Form) (value : Float) : String :=
  let bits := value.toBits
  let sign := if 0x8000000000000000 ≤ bits then "-" else ""
  match shortest? bits with
  | some decimal =>
      if decimal.digits = 0 then sign ++ "0.0" else sign ++ form.write decimal
  | none => sign ++ "0.0"

end QubitRotation.Decimal
