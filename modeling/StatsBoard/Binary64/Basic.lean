/-!
# Binary64 numbers as words

A sample is a binary64 number. It is held as its 64-bit word, and every operation on it is stated
in integer arithmetic on the fields of the word, so that order, clamping, truncation and rounding
can be computed and reasoned about exactly. The order is carried by `rank`: comparing two numbers
that are not NaN is comparing their ranks, and the two zeros share rank `0`.
-/

namespace StatsBoard

/-- A binary64 number, given by its word: the sign in bit 63, the biased exponent in bits 52 to 62
and the fraction below. -/
structure Binary64 where
  bits : UInt64
deriving DecidableEq, Repr

namespace Binary64

/-- The sign bit of a word. -/
def signBit : Nat := 0x8000000000000000

/-- The least exponent bit of a word. It is also the bit that the significand of a normal number
hides. -/
def hiddenBit : Nat := 0x10000000000000

/-- The word without its sign bit, as a natural number. It grows with the absolute value. -/
def magnitude (x : Binary64) : Nat :=
  x.bits.toNat % signBit

/-- The sign bit is set. -/
def negative (x : Binary64) : Bool :=
  signBit ≤ x.bits.toNat

/-- The magnitude of the two infinities; larger magnitudes are NaN. -/
def infinityMagnitude : Nat :=
  0x7ff0000000000000

/-- The word is a NaN. -/
def isNaN (x : Binary64) : Bool :=
  infinityMagnitude < x.magnitude

/-- The word is a zero, a subnormal or a normal number. -/
def isFinite (x : Binary64) : Bool :=
  x.magnitude < infinityMagnitude

/-- The place of a number in the order of the extended reals. Both zeros have place `0`. -/
def rank (x : Binary64) : Int :=
  if x.negative then -(x.magnitude : Int) else x.magnitude

/-- The strict order of numbers; nothing is below or above a NaN. -/
def lt (x y : Binary64) : Bool :=
  !x.isNaN && !y.isNaN && x.rank < y.rank

/-- The order of numbers; nothing compares with a NaN. -/
def le (x y : Binary64) : Bool :=
  !x.isNaN && !y.isNaN && x.rank ≤ y.rank

/-- The number with the given sign and magnitude. -/
def ofMagnitude (negative : Bool) (magnitude : Nat) : Binary64 :=
  ⟨.ofNat ((if negative then signBit else 0) + magnitude)⟩

/-- Positive zero. -/
def zero : Binary64 := ofMagnitude false 0

/-- Positive infinity. -/
def infinity : Binary64 := ofMagnitude false infinityMagnitude

/-- The NaN that operations produce. -/
def nan : Binary64 := ofMagnitude false 0x7ff8000000000000

/-- The integral significand of a finite number: the fraction, with the hidden bit when the number
is normal. -/
def significand (x : Binary64) : Nat :=
  if x.magnitude < hiddenBit then x.magnitude else hiddenBit + x.magnitude % hiddenBit

/-- The exponent of a finite number: its absolute value is `significand * 2 ^ exponent`. -/
def exponent (x : Binary64) : Int :=
  max (x.magnitude / hiddenBit : Nat) 1 - 1075

/-- The absolute value of a finite number as a fraction of two natural numbers. -/
def ratio (x : Binary64) : Nat × Nat :=
  if 0 ≤ x.exponent then (x.significand <<< x.exponent.toNat, 1)
  else (x.significand, 1 <<< (-x.exponent).toNat)

/-- The quotient rounded to the nearest natural number, a half going to the even neighbour. -/
def divHalfEven (numerator denominator : Nat) : Nat :=
  let quotient := numerator / denominator
  let remainder := numerator % denominator
  if 2 * remainder < denominator then quotient
  else if denominator < 2 * remainder then quotient + 1
  else quotient + quotient % 2

/-- The quotient rounded to the nearest natural number, a half going up. -/
def divHalfUp (numerator denominator : Nat) : Nat :=
  (2 * numerator + denominator) / (2 * denominator)

/-- The quotient `numerator / (denominator * 2 ^ shift)` as a fraction of natural numbers. -/
def scaled (numerator denominator : Nat) (shift : Int) : Nat × Nat :=
  if 0 ≤ shift then (numerator, denominator <<< shift.toNat)
  else (numerator <<< (-shift).toNat, denominator)

/-- The exponent of the last significand bit of a positive fraction: its significand lies in
`[2 ^ 52, 2 ^ 53)` unless the fraction is below the normal numbers. -/
def lastBit (numerator denominator : Nat) : Int :=
  let estimate : Int := (Nat.log2 numerator : Int) - Nat.log2 denominator - 52
  let (n, d) := scaled numerator denominator estimate
  max (if n < d * hiddenBit then estimate - 1 else estimate) (-1074)

/-- The magnitude of the binary64 number nearest to `numerator / denominator`, ties going to the
even significand and values beyond the largest number to infinity. -/
def nearestMagnitude (numerator denominator : Nat) : Nat :=
  if numerator = 0 then 0
  else
    let shift := lastBit numerator denominator
    let (n, d) := scaled numerator denominator shift
    min ((shift + 1074).toNat * hiddenBit + divHalfEven n d) infinityMagnitude

/-- The binary64 number nearest to `± numerator / denominator`. -/
def nearest (negative : Bool) (numerator denominator : Nat) : Binary64 :=
  ofMagnitude negative (nearestMagnitude numerator denominator)

/-- The binary64 number nearest to an integer. -/
def ofInt (i : Int) : Binary64 :=
  nearest (i < 0) i.natAbs 1

/-- The number of decimal digits of a natural number; `0` has one. -/
def decimalDigits (n : Nat) : Nat :=
  (Nat.toDigits 10 n).length

/-- The binary64 number nearest to `± digits * 10 ^ scale`. Exponents that put the value beyond
every finite number, or below half the least one, are decided by the digit count alone. -/
def ofDecimal (negative : Bool) (digits : Nat) (scale : Int) : Binary64 :=
  if digits = 0 then ofMagnitude negative 0
  else
    let top := scale + decimalDigits digits
    if 310 < top then ofMagnitude negative infinityMagnitude
    else if top < -330 then ofMagnitude negative 0
    else if 0 ≤ scale then nearest negative (digits * Nat.pow 10 scale.toNat) 1
    else nearest negative digits (Nat.pow 10 (-scale).toNat)

/-- The larger of two numbers; a NaN gives way to the other operand. -/
def max (x y : Binary64) : Binary64 :=
  if x.isNaN then y
  else if x.lt y then y
  else x

/-- Division, correctly rounded, with the conventions of extended arithmetic for zeros, infinities
and NaN. -/
def div (x y : Binary64) : Binary64 :=
  let negative := x.negative != y.negative
  if x.isNaN || y.isNaN then nan
  else if !x.isFinite then (if y.isFinite then ofMagnitude negative infinityMagnitude else nan)
  else if !y.isFinite then ofMagnitude negative 0
  else if y.magnitude = 0 then
    (if x.magnitude = 0 then nan else ofMagnitude negative infinityMagnitude)
  else
    let (a, b) := x.ratio
    let (c, d) := y.ratio
    nearest negative (a * d) (b * c)

/-- Multiplication, correctly rounded, with the conventions of extended arithmetic. -/
def mul (x y : Binary64) : Binary64 :=
  let negative := x.negative != y.negative
  if x.isNaN || y.isNaN then nan
  else if !x.isFinite || !y.isFinite then
    (if x.magnitude = 0 || y.magnitude = 0 then nan else ofMagnitude negative infinityMagnitude)
  else
    let (a, b) := x.ratio
    let (c, d) := y.ratio
    nearest negative (a * c) (b * d)

/-- The integer part of a finite number: its value truncated toward zero. -/
def integerPart (x : Binary64) : Int :=
  let (n, d) := x.ratio
  if x.negative then -((n / d : Nat) : Int) else (n / d : Nat)

/-- The integer nearest to a finite number, a half going away from zero. -/
def nearestInteger (x : Binary64) : Int :=
  let (n, d) := x.ratio
  if x.negative then -((divHalfUp n d : Nat) : Int) else divHalfUp n d

/-- Bring an integer-valued reading of a number into `[low, high]`: infinities go to the bounds and
a NaN reads as `0`. -/
def saturate (low high : Int) (read : Binary64 → Int) (x : Binary64) : Int :=
  if x.isNaN then 0
  else if !x.isFinite then (if x.negative then low else high)
  else Max.max low (min (read x) high)

end Binary64

end StatsBoard
