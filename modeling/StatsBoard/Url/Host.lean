import StatsBoard.Text.Split
import StatsBoard.Url.Basic
import StatsBoard.Url.Charset
import StatsBoard.Url.Domain

/-!
# Reading hosts

A host in brackets is eight pieces of 16 bits. Any other host of a special scheme is a domain, and
a domain whose last label is a number is an address of 32 bits. With other schemes a host is a text
of which nothing more is known.
-/

namespace StatsBoard.Host

open Text

/-- The value of digits in a base, if they are digits of that base. -/
def ofDigits? (base : Nat) (digits : List Char) : Option Nat :=
  digits.foldlM (fun value c => do
    let digit ← hexValue? c
    if digit < base then return base * value + digit else none) 0

/-- The number that a label writes, hexadecimal after `0x`, octal after `0`, else decimal. -/
def labelNumber? : List Char → Option Nat
  | [] => none
  | '0' :: 'x' :: digits | '0' :: 'X' :: digits => ofDigits? 16 digits
  | ['0'] => some 0
  | '0' :: digits => ofDigits? 8 digits
  | digits => ofDigits? 10 digits

/-- The labels of a domain; a point at the end adds none. -/
def labels (domain : List Char) : List (List Char) :=
  let pieces := split (· == '.') domain
  if 2 ≤ pieces.length ∧ pieces.getLast? = some [] then pieces.dropLast else pieces

/-- The last label of a domain is a number. -/
def endsInNumber (domain : List Char) : Bool :=
  match (labels domain).getLast? with
  | some label => (label != [] && label.all isDigit) || (labelNumber? label).isSome
  | none => false

/-- The address that numbers write: the last fills the bytes that the others leave. -/
def ipv4OfNumbers? (numbers : List Nat) : Option Nat := do
  let last ← numbers.getLast?
  let first := numbers.dropLast
  if 3 < first.length ∨ first.any (255 < ·) ∨ Nat.pow 256 (4 - first.length) ≤ last then none
  else
    return first.foldl (fun value n => 256 * value + n) 0 * Nat.pow 256 (4 - first.length) + last

/-- The address of 32 bits that a domain writes. -/
def ipv4? (domain : List Char) : Option Nat := do
  ipv4OfNumbers? (← (labels domain).mapM labelNumber?)

/-- A number of one byte in decimal digits without leading zeros. -/
def decimalByte? (digits : List Char) : Option Nat :=
  if digits = [] ∨ !(digits.all isDigit) ∨ (2 ≤ digits.length ∧ digits.head? = some '0') then none
  else
    let value := digitsValue 0 digits
    if value ≤ 255 then some value else none

/-- One piece of 16 bits. -/
def piece? (digits : List Char) : Option Nat :=
  if digits = [] ∨ 4 < digits.length then none else ofDigits? 16 digits

/-- The pieces between colons, of which the last may be an address of 32 bits if `last`. -/
def pieces? (last : Bool) : List (List Char) → Option (List Nat)
  | [] => some []
  | [group] =>
    if last && group.contains '.' then do
      match ← (split (· == '.') group).mapM decimalByte? with
      | [a, b, c, d] => some [256 * a + b, 256 * c + d]
      | _ => none
    else (piece? group).map ([·])
  | group :: groups => do
    let piece ← piece? group
    let pieces ← pieces? last groups
    return piece :: pieces

/-- The pieces of a text without two colons in a row; the empty text has none. -/
def side? (last : Bool) (text : List Char) : Option (List Nat) :=
  if text = [] then some [] else pieces? last (split (· == ':') text)

/-- The text before and after the first two colons in a row. -/
def cutAtDoubleColon : List Char → Option (List Char × List Char)
  | ':' :: ':' :: rest => some ([], rest)
  | c :: rest => (cutAtDoubleColon rest).map fun (left, right) => (c :: left, right)
  | [] => none

/-- The eight pieces that a text writes; two colons stand for one or more zeros. -/
def ipv6? (text : List Char) : Option (List Nat) :=
  match cutAtDoubleColon text with
  | some (left, right) => do
    let left ← side? false left
    let right ← side? true right
    if left.length + right.length ≤ 7 then
      some (left ++ List.replicate (8 - left.length - right.length) 0 ++ right)
    else none
  | none => do
    let pieces ← side? true text
    if pieces.length = 8 then some pieces else none

/-- The host in brackets that a text is. -/
def ofBrackets (text : List Char) : Except UrlError Host :=
  if text.getLast? = some ']' then
    match ipv6? (text.drop 1).dropLast with
    | some pieces => .ok (ipv6 pieces)
    | none => .error .badIpv6
  else .error .badIpv6

/-- The host of an address with a special scheme. -/
def ofSpecial (text : List Char) : Except UrlError Host :=
  if text.head? = some '[' then ofBrackets text
  else
    match (ofUtf8? (percentDecode text)).bind (Domain.toAscii? ·.toList) with
    | none => .error .badDomain
    | some [] => .error .emptyHost
    | some name =>
      if endsInNumber name then
        match ipv4? name with
        | some address => .ok (ipv4 address)
        | none => .error .badIpv4
      else .ok (domain (String.ofList name))

/-- The host of an address with another scheme. -/
def ofOther (text : List Char) : Except UrlError Host :=
  if text.head? = some '[' then ofBrackets text
  else if text.any Url.isForbiddenInHost then .error .badHostCharacter
  else .ok (domain (String.ofList (percentEncode Url.isControl text)))

end StatsBoard.Host
