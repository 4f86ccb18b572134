/-!
# Domain labels in ASCII

A label with characters beyond ASCII is written with its ASCII characters first and the others as
differences: how many (place, character) pairs, counted place by place within one character and
character by character in rising order, lie between one of them and the next. Each difference is a
numeral of base 36 whose digits say themselves where it ends; the bounds of the digits follow the
size of the differences seen so far.
-/

namespace StatsBoard.Punycode

/-- The digit of a value below 36: letters, then the digits of base ten. -/
def digit (value : Nat) : Char :=
  if value < 26 then Char.ofNat (97 + value) else Char.ofNat (22 + value)

/-- The value of a digit. -/
def digitValue? (c : Char) : Option Nat :=
  if 'a' ≤ c && c ≤ 'z' then some (c.toNat - 97)
  else if 'A' ≤ c && c ≤ 'Z' then some (c.toNat - 65)
  else if '0' ≤ c && c ≤ '9' then some (c.toNat - 22)
  else none

/-- The bound of the digit at a position, given as a multiple of 36: a smaller digit is the last of
its numeral. -/
def bound (position bias : Nat) : Nat :=
  max 1 (min 26 (position - bias))

theorem bound_pos (position bias : Nat) : 0 < bound position bias := by
  unfold bound; omega

/-- Divide by 35 until at most 455 is left, counting 36 for each division. -/
def dampen (difference count : Nat) : Nat × Nat :=
  if 455 < difference then dampen (difference / 35) (count + 36) else (difference, count)
termination_by difference
decreasing_by exact Nat.div_lt_self (by omega) (by omega)

/-- The bias after a difference, the first or a later one, in a label of the given length. -/
def adapt (difference length : Nat) (first : Bool) : Nat :=
  let difference := difference / (if first then 700 else 2)
  let (rest, count) := dampen (difference + difference / length) 0
  count + 36 * rest / (rest + 38)

/-- A difference as a numeral, from a position on. -/
def numeral (bias position difference : Nat) : List Char :=
  let low := bound position bias
  if difference < low then [digit difference]
  else
    digit (low + (difference - low) % (36 - low))
      :: numeral bias (position + 36) ((difference - low) / (36 - low))
termination_by difference
decreasing_by
  have := bound_pos position bias
  exact Nat.lt_of_le_of_lt (Nat.div_le_self _ _) (by omega)

/-- What is known while a label is written: the numerals so far, the difference since the last of
them, the bias, and how many characters are written. -/
structure Writing where
  written : List Char := []
  difference : Nat := 0
  bias : Nat := 72
  length : Nat

/-- Go on over one character of the label while writing the character `code`. `basic` is the
number of ASCII characters. -/
def Writing.pass (basic code : Nat) (writing : Writing) (c : Char) : Writing :=
  if c.toNat < code then { writing with difference := writing.difference + 1 }
  else if c.toNat = code then
    { written := writing.written ++ numeral writing.bias 36 writing.difference
      difference := 0
      bias := adapt writing.difference (writing.length + 1) (writing.length == basic)
      length := writing.length + 1 }
  else writing

/-- Write all places of the characters with the given codes, in rising order. `next` is the first
code that has not been counted yet. -/
def Writing.passAll (label : List Char) (basic : Nat) : Nat → List Nat → Writing → Writing
  | _, [], writing => writing
  | next, code :: codes, writing =>
    let skipped := { writing with
      difference := writing.difference + (code - next) * (writing.length + 1) }
    let passed := label.foldl (Writing.pass basic code) skipped
    passAll label basic (code + 1) codes { passed with difference := passed.difference + 1 }

/-- Put a number into a rising list without repeats. -/
def insertRising (n : Nat) : List Nat → List Nat
  | [] => [n]
  | m :: rest =>
    if n < m then n :: m :: rest else if n = m then m :: rest else m :: insertRising n rest

/-- A label as ASCII characters. -/
def encode (label : List Char) : List Char :=
  let basic := label.filter (·.toNat < 128)
  let codes := ((label.filter (128 ≤ ·.toNat)).map Char.toNat).foldr insertRising []
  let start := if basic = [] then [] else basic ++ ['-']
  start ++ (Writing.passAll label basic.length 128 codes { length := basic.length }).written

/-- Read one numeral: its value and the rest of the text. `weight` is the value of the next
digit. -/
def readNumeral (bias : Nat) : Nat → Nat → Nat → List Char → Option (Nat × List Char)
  | _, _, _, [] => none
  | position, weight, value, c :: rest => do
    let digit ← digitValue? c
    let value := value + digit * weight
    let low := bound position bias
    if digit < low then some (value, rest)
    else readNumeral bias (position + 36) (weight * (36 - low)) value rest

/-- Put an item into a list at a place. -/
def insertAt (place : Nat) (c : Char) (cs : List Char) : List Char :=
  cs.take place ++ c :: cs.drop place

/-- The character of a code, if it has one. -/
def charOf? (code : Nat) : Option Char :=
  if h : code.isValidChar then some (Char.ofNatAux code h) else none

/-- Read numerals up to the end of the text and put their characters into the label. `fuel` bounds
the number of numerals. -/
def readAll : Nat → Nat → Nat → Nat → Bool → List Char → List Char → Option (List Char)
  | _, _, _, _, _, label, [] => some label
  | 0, _, _, _, _, _, _ => none
  | fuel + 1, code, place, bias, first, label, text => do
    let (difference, rest) ← readNumeral bias 36 1 0 text
    let length := label.length + 1
    let total := place + difference
    let code := code + total / length
    let place := total % length
    let c ← charOf? code
    readAll fuel code (place + 1) (adapt difference length first) false (insertAt place c label)
      rest

/-- The label that ASCII characters write: those before the last hyphen, and what the numerals
after it add. -/
def decode? (text : List Char) : Option (List Char) :=
  let numerals := (text.reverse.takeWhile (· != '-')).reverse
  let basic := (text.take (text.length - numerals.length)).dropLast
  if basic.any (128 ≤ ·.toNat) ∨ (basic = [] ∧ text.contains '-') then none
  else readAll text.length 128 0 72 true basic numerals

end StatsBoard.Punycode
