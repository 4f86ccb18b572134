import StatsBoard.Text.Numeral

/-!
# Percent-encoding

A character that may not stand for itself is written as the bytes of its UTF-8 form, each as a
percent sign and two hexadecimal digits. Reading takes such triples back and leaves everything
else alone.
-/

namespace StatsBoard.Text

/-- The UTF-8 form of characters. -/
def utf8 (cs : List Char) : List UInt8 :=
  cs.flatMap String.utf8EncodeChar

/-- The text whose UTF-8 form the bytes are, if they are one. -/
def ofUtf8? (bytes : List UInt8) : Option String :=
  String.fromUTF8? ⟨bytes.toArray⟩

/-- The hexadecimal digit of a value below sixteen, with capital letters. -/
def capitalHexDigit (n : Nat) : Char :=
  if n < 10 then Char.ofNat (48 + n) else Char.ofNat (55 + n)

/-- A byte as a percent sign and two digits. -/
def percentByte (byte : UInt8) : List Char :=
  ['%', capitalHexDigit (byte.toNat / 16), capitalHexDigit (byte.toNat % 16)]

/-- A character, encoded if it has to be. -/
def percentChar (escapes : Char → Bool) (c : Char) : List Char :=
  if escapes c then (String.utf8EncodeChar c).flatMap percentByte else [c]

/-- Characters, encoded where they have to be. -/
def percentEncode (escapes : Char → Bool) (cs : List Char) : List Char :=
  cs.flatMap (percentChar escapes)

/-- The bytes that characters stand for. -/
def percentDecode : List Char → List UInt8
  | '%' :: a :: b :: rest =>
    match hexValue? a, hexValue? b with
    | some high, some low => .ofNat (16 * high + low) :: percentDecode rest
    | _, _ => 0x25 :: percentDecode (a :: b :: rest)
  | c :: rest => String.utf8EncodeChar c ++ percentDecode rest
  | [] => []

end StatsBoard.Text
