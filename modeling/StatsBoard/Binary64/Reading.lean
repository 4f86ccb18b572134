import StatsBoard.Binary64.Basic
import StatsBoard.Text.Numeral
import StatsBoard.Text.Letter

/-!
# Reading a number from text

The grammar of a sample sent as text: an optional sign, then digits with an optional point (at
least one digit on either side of it) and an optional exponent, or one of the words `inf`,
`infinity` and `nan` in any ASCII case. The value is rounded once, to the nearest number.
-/

namespace StatsBoard.Binary64

open Text

/-- A run of digits and the text after it. -/
def spanDigits (cs : List Char) : List Char × List Char :=
  (cs.takeWhile isDigit, cs.dropWhile isDigit)

/-- Split off an optional sign; `true` stands for minus. -/
def signOf : List Char → Bool × List Char
  | '-' :: rest => (true, rest)
  | '+' :: rest => (false, rest)
  | rest => (false, rest)

/-- The exponent part of a numeral, up to the end of the text. -/
def readExponent : List Char → Option Int
  | [] => some 0
  | c :: rest =>
    if c = 'e' ∨ c = 'E' then
      let (negative, digits) := signOf rest
      if digits ≠ [] ∧ digits.all isDigit then
        let value : Int := digitsValue 0 digits
        some (if negative then -value else value)
      else none
    else none

/-- The fraction digits of a numeral, if there is a point, and the text after them. -/
def fractionDigits : List Char → List Char × List Char
  | '.' :: rest => spanDigits rest
  | rest => ([], rest)

/-- An unsigned numeral as its digits and power of ten. -/
def readDecimal (cs : List Char) : Option (Nat × Int) :=
  let (whole, afterWhole) := spanDigits cs
  let (fraction, afterFraction) := fractionDigits afterWhole
  if whole = [] ∧ fraction = [] then none
  else
    (readExponent afterFraction).map fun exponent =>
      (digitsValue (digitsValue 0 whole) fraction, exponent - fraction.length)

/-- The number written by a text, or nothing if the text is no numeral. -/
def ofText? (s : String) : Option Binary64 :=
  let (negative, body) := signOf s.toList
  let word := String.ofList (body.map lowerAscii)
  if word = "inf" ∨ word = "infinity" then some (ofMagnitude negative infinityMagnitude)
  else if word = "nan" then some nan
  else (readDecimal body).map fun (digits, scale) => ofDecimal negative digits scale

end StatsBoard.Binary64
