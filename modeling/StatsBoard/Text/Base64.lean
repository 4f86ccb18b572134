import StatsBoard.Text.Numeral

/-!
# Base 64

Bytes written as characters for six bits each, three bytes as four characters. Equality signs fill
up the last four.
-/

namespace StatsBoard.Text

/-- The six bits that a character stands for. -/
def base64Value? (c : Char) : Option Nat :=
  if 'A' ≤ c && c ≤ 'Z' then some (c.toNat - 'A'.toNat)
  else if 'a' ≤ c && c ≤ 'z' then some (c.toNat - 'a'.toNat + 26)
  else if isDigit c then some (digitValue c + 52)
  else if c = '+' then some 62
  else if c = '/' then some 63
  else none

/-- The bytes of groups of four values; the last group may have only two or three. -/
def base64Bytes? : List Nat → Option (List UInt8)
  | [] => some []
  | [_] => none
  | [a, b] => some [.ofNat (4 * a + b / 16)]
  | [a, b, c] => some [.ofNat (4 * a + b / 16), .ofNat (b % 16 * 16 + c / 4)]
  | a :: b :: c :: d :: rest =>
    (base64Bytes? rest).map fun bytes =>
      .ofNat (4 * a + b / 16) :: .ofNat (b % 16 * 16 + c / 4) :: .ofNat (c % 4 * 64 + d) :: bytes

/-- The character may stand between the others without a meaning. -/
def isBase64Blank (c : Char) : Bool :=
  c == ' ' || c == '\t' || c == '\n' || c == '\r'

/-- The bytes that a text writes. -/
def base64Decode? (cs : List Char) : Option (List UInt8) :=
  let written := cs.filter (!isBase64Blank ·)
  let values := (written.reverse.dropWhile (· == '=')).reverse
  let filling := written.length - values.length
  if 2 < filling ∨ written.length % 4 ≠ 0 then none
  else (values.mapM base64Value?).bind base64Bytes?

end StatsBoard.Text
