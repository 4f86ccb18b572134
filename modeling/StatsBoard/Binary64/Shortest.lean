import StatsBoard.Binary64.Basic

/-!
# Shortest decimal digits

The decimal text of a binary64 number shows the fewest digits that read back as the same number
and, among those, the digits nearest to it. For each count of digits the two neighbours of the
number on that decimal grid are compared, in exact arithmetic, with the interval of reals that
round to the number; the first grid with a neighbour inside the interval gives the digits.
-/

namespace StatsBoard.Binary64

/-- Decimal digits with a power of ten: the value `digits * 10 ^ scale`. -/
structure Decimal where
  digits : Nat
  scale : Int
deriving DecidableEq, Repr

/-- The reals that round to one positive number, in units of a quarter of its last bit: the number
itself is `center / unit`, the ends of the interval are `low / unit` and `high / unit`, and they
belong to it when `closed`. -/
structure Interval where
  low : Nat
  center : Nat
  high : Nat
  unit : Nat
  closed : Bool

/-- The rounding interval of a positive finite number. Below a power of two the neighbour is only
half as far away. -/
def interval (x : Binary64) : Interval :=
  let significand := x.significand
  let exponent := x.exponent - 2
  let factor := if 0 ≤ exponent then 1 <<< exponent.toNat else 1
  let unit := if 0 ≤ exponent then 1 else 1 <<< (-exponent).toNat
  let gapBelow := if significand = hiddenBit ∧ 2 * hiddenBit ≤ x.magnitude then 1 else 2
  { low := (4 * significand - gapBelow) * factor
    center := 4 * significand * factor
    high := (4 * significand + 2) * factor
    unit := unit
    closed := significand % 2 == 0 }

/-- The fraction `numerator / denominator` over `10 ^ scale`. -/
def overPower (numerator denominator : Nat) (scale : Int) : Nat × Nat :=
  if 0 ≤ scale then (numerator, denominator * Nat.pow 10 scale.toNat)
  else (numerator * Nat.pow 10 (-scale).toNat, denominator)

/-- The decimal point `digits * 10 ^ scale` lies in the interval. -/
def Interval.contains (i : Interval) (digits : Nat) (scale : Int) : Bool :=
  let (low, lowUnit) := overPower i.low i.unit scale
  let (high, highUnit) := overPower i.high i.unit scale
  if i.closed then low ≤ digits * lowUnit && digits * highUnit ≤ high
  else low < digits * lowUnit && digits * highUnit < high

/-- The neighbour of the number on the grid of multiples of `10 ^ scale` that reads back as the
number, if there is one; of two, the nearer, and at equal distance the even one. -/
def Interval.onGrid? (i : Interval) (scale : Int) : Option Nat :=
  let (center, unit) := overPower i.center i.unit scale
  let below := center / unit
  let above := below + 1
  match i.contains below scale, i.contains above scale with
  | true, true =>
    let rest := center % unit
    if 2 * rest < unit then some below
    else if unit < 2 * rest then some above
    else some (below + below % 2)
  | true, false => some below
  | false, true => some above
  | false, false => none

/-- The decimal exponent of the first digit of `numerator / denominator`, searched upwards from
`exponent`. -/
def firstDigitFrom (numerator denominator : Nat) : Nat → Int → Int
  | 0, exponent => exponent
  | fuel + 1, exponent =>
    let (n, d) := overPower numerator denominator (exponent + 1)
    if n < d then exponent else firstDigitFrom numerator denominator fuel (exponent + 1)

/-- The decimal exponent of the first digit of a positive fraction. -/
def firstDigit (numerator denominator : Nat) : Int :=
  let binary : Int := (Nat.log2 numerator : Int) - Nat.log2 denominator - 1
  let estimate := Int.fdiv (binary * 30103) 100000 - 1
  firstDigitFrom numerator denominator 4 estimate

/-- Drop trailing zeros of the digits, raising the scale. -/
def Decimal.strip : Nat → Decimal → Decimal
  | 0, d => d
  | fuel + 1, d =>
    if d.digits % 10 = 0 ∧ d.digits ≠ 0 then Decimal.strip fuel ⟨d.digits / 10, d.scale + 1⟩ else d

/-- The first grid of `count`, `count + 1`, … digits with a point in the interval, trying at most
`fuel` grids. -/
def shortestFrom (i : Interval) (first : Int) : Nat → Nat → Decimal
  | 0, count => ⟨i.center / i.unit, first - count⟩
  | fuel + 1, count =>
    let scale := first - count + 1
    match i.onGrid? scale with
    | some digits => Decimal.strip 20 ⟨digits, scale⟩
    | none => shortestFrom i first fuel (count + 1)

/-- The shortest decimal that reads back as the absolute value of a finite number. -/
def shortest (x : Binary64) : Decimal :=
  if x.magnitude = 0 then ⟨0, 0⟩
  else
    let i := x.interval
    shortestFrom i (firstDigit i.center i.unit) 17 1

end StatsBoard.Binary64
