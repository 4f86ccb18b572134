import StatsBoard.Json.Value
import StatsBoard.Binary64.Shortest
import StatsBoard.Text.Numeral

/-!
# Printing JSON

The compact form has no blanks. The indented form puts each item and member on a line of its own,
two spaces deeper than its container, and writes empty containers as `[]` and `\x7b\x7d`. A real
number is written with its shortest digits: positionally, and always with a fraction, when the
exponent of its first digit lies between -5 and 15, and otherwise as `d.ddde+X` or `d.ddde-X`.
-/

namespace StatsBoard.Json

open Text

/-- The least and the greatest exponent of the first digit that are written positionally. -/
def positionalExponents : Int × Int := (-5, 15)

/-- Digits written positionally, the first of them standing at the power `exponent` of ten. -/
def positional (digits : List Char) (exponent : Int) : List Char :=
  if exponent < 0 then
    '0' :: '.' :: (List.replicate ((-exponent).toNat - 1) '0' ++ digits)
  else
    let whole := exponent.toNat + 1
    let padded := digits ++ List.replicate (whole - digits.length) '0'
    let fraction := padded.drop whole
    padded.take whole ++ '.' :: (if fraction = [] then ['0'] else fraction)

/-- Digits written with an exponent, one digit before the point. -/
def scientific (digits : List Char) (exponent : Int) : List Char :=
  let sign := if exponent < 0 then '-' else '+'
  let tail := 'e' :: sign :: natDigits exponent.natAbs
  match digits with
  | [] => tail
  | [d] => d :: tail
  | d :: rest => d :: '.' :: (rest ++ tail)

/-- The text of a finite binary64 number; numbers that are not finite have no JSON text and become
`null`. -/
def realChars (x : Binary64) : List Char :=
  if !x.isFinite then "null".toList
  else
    let body :=
      if x.magnitude = 0 then "0.0".toList
      else
        let decimal := x.shortest
        let digits := natDigits decimal.digits
        let exponent := decimal.scale + digits.length - 1
        if positionalExponents.1 ≤ exponent ∧ exponent ≤ positionalExponents.2 then
          positional digits exponent
        else scientific digits exponent
    if x.negative then '-' :: body else body

/-- The text of a number. -/
def numberChars : Number → List Char
  | .integer value => (intNumeral value).toList
  | .real value => realChars value

/-- A character inside a string literal: the quote, the backslash and the control characters are
escaped, everything else stands for itself. -/
def escapeChar (c : Char) : List Char :=
  match c with
  | '"' => ['\\', '"']
  | '\\' => ['\\', '\\']
  | '\n' => ['\\', 'n']
  | '\r' => ['\\', 'r']
  | '\t' => ['\\', 't']
  | '\x08' => ['\\', 'b']
  | '\x0c' => ['\\', 'f']
  | c =>
    if c.toNat < 0x20 then ['\\', 'u', '0', '0', hexDigit (c.toNat / 16), hexDigit (c.toNat % 16)]
    else [c]

/-- A string literal. -/
def stringChars (s : String) : List Char :=
  '"' :: (s.toList.flatMap escapeChar ++ ['"'])

mutual

/-- The compact text of a value. -/
def compactChars : Json → List Char
  | .null => "null".toList
  | .bool true => "true".toList
  | .bool false => "false".toList
  | .number n => numberChars n
  | .string s => stringChars s
  | .array items => '[' :: (compactItems items ++ [']'])
  | .object members => '{' :: (compactMembers members ++ ['}'])

/-- The compact texts of items with commas between them. -/
def compactItems : List Json → List Char
  | [] => []
  | [item] => compactChars item
  | item :: rest => compactChars item ++ ',' :: compactItems rest

/-- The compact texts of members with commas between them. -/
def compactMembers : List (String × Json) → List Char
  | [] => []
  | [(key, value)] => stringChars key ++ ':' :: compactChars value
  | (key, value) :: rest =>
    stringChars key ++ ':' :: (compactChars value ++ ',' :: compactMembers rest)

end

/-- A line break followed by the indentation of the given depth. -/
def lineBreak (depth : Nat) : List Char :=
  '\n' :: List.replicate (2 * depth) ' '

mutual

/-- The indented text of a value inside `depth` containers. -/
def prettyChars (depth : Nat) : Json → List Char
  | .array [] => "[]".toList
  | .object [] => ['{', '}']
  | .array (item :: rest) =>
    '[' :: (prettyItems (depth + 1) (item :: rest) ++ lineBreak depth ++ [']'])
  | .object (member :: rest) =>
    '{' :: (prettyMembers (depth + 1) (member :: rest) ++ lineBreak depth ++ ['}'])
  | .null => "null".toList
  | .bool true => "true".toList
  | .bool false => "false".toList
  | .number n => numberChars n
  | .string s => stringChars s

/-- The indented texts of items, each on a line of its own. -/
def prettyItems (depth : Nat) : List Json → List Char
  | [] => []
  | [item] => lineBreak depth ++ prettyChars depth item
  | item :: rest => lineBreak depth ++ prettyChars depth item ++ ',' :: prettyItems depth rest

/-- The indented texts of members, each on a line of its own. -/
def prettyMembers (depth : Nat) : List (String × Json) → List Char
  | [] => []
  | [(key, value)] =>
    lineBreak depth ++ stringChars key ++ ':' :: ' ' :: prettyChars depth value
  | (key, value) :: rest =>
    lineBreak depth ++ stringChars key ++ ':' :: ' ' :: (prettyChars depth value
      ++ ',' :: prettyMembers depth rest)

end

/-- The compact text of a value. -/
def compact (value : Json) : String :=
  String.ofList (compactChars value)

/-- The indented text of a value. -/
def pretty (value : Json) : String :=
  String.ofList (prettyChars 0 value)

end StatsBoard.Json
