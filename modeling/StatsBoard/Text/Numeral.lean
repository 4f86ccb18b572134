/-!
# Decimal numerals

Numerals of natural numbers and integers in base ten, and the reading of a run of digits.
-/

namespace StatsBoard.Text

/-- The numeral of a natural number: its decimal digits without leading zeros. -/
def natDigits (n : Nat) : List Char :=
  Nat.toDigits 10 n

/-- The numeral of a natural number. -/
def natNumeral (n : Nat) : String :=
  String.ofList (natDigits n)

/-- The numeral of an integer: a minus sign for a negative one, then the digits. -/
def intNumeral (i : Int) : String :=
  if i < 0 then "-" ++ natNumeral i.natAbs else natNumeral i.natAbs

/-- The character is one of `0` to `9`. -/
def isDigit (c : Char) : Bool :=
  '0' ≤ c && c ≤ '9'

/-- The value of a digit. -/
def digitValue (c : Char) : Nat :=
  c.toNat - '0'.toNat

/-- The value of a run of digits, continuing from the value already read. -/
def digitsValue (start : Nat) (digits : List Char) : Nat :=
  digits.foldl (fun value c => 10 * value + digitValue c) start

/-- The value of a hexadecimal digit. -/
def hexValue? (c : Char) : Option Nat :=
  if isDigit c then some (digitValue c)
  else if 'a' ≤ c && c ≤ 'f' then some (c.toNat - 'a'.toNat + 10)
  else if 'A' ≤ c && c ≤ 'F' then some (c.toNat - 'A'.toNat + 10)
  else none

/-- The hexadecimal digit of a value below sixteen, with small letters. -/
def hexDigit (n : Nat) : Char :=
  if n < 10 then Char.ofNat (48 + n) else Char.ofNat (87 + n)

end StatsBoard.Text
