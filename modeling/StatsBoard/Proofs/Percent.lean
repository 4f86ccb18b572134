import Mathlib.Data.List.Basic
import StatsBoard.Text.Percent

/-!
# Percent-encoding is taken back

Decoding gives the bytes of the text that was encoded (`Text.percent_decode_percent_encode`), as
long as percent signs are encoded, so different texts are encoded differently. A character that is
encoded wherever it stands does not occur in an encoded text.
-/

namespace StatsBoard.Text

variable {escapes : Char → Bool} {cs ds : List Char} {c : Char}

/-! ## Bytes of characters -/

theorem utf8_cons : utf8 (c :: cs) = String.utf8EncodeChar c ++ utf8 cs :=
  rfl

/-- The bytes of a text are read as that text. -/
theorem of_utf8_utf8 : ofUtf8? (utf8 cs) = some (String.ofList cs) := by
  have hbytes : (⟨(utf8 cs).toArray⟩ : ByteArray) = cs.utf8Encode :=
    ByteArray.ext List.data_toByteArray.symm
  have hvalid : ByteArray.IsValidUTF8 ⟨(utf8 cs).toArray⟩ :=
    hbytes ▸ ByteArray.isValidUTF8_utf8Encode
  rw [ofUtf8?, String.fromUTF8?, dif_pos hvalid,
    Option.some.injEq, ← String.toByteArray_inj, String.toByteArray_ofList]
  exact hbytes

theorem utf8_inj (h : utf8 cs = utf8 ds) : cs = ds := by
  have htext : some (String.ofList cs) = some (String.ofList ds) := by
    rw [← of_utf8_utf8, ← of_utf8_utf8, h]
  exact String.ofList_injective (Option.some.inj htext)

/-! ## Bytes as triples -/

theorem hex_value_capital_hex_digit :
    ∀ n < 16, hexValue? (capitalHexDigit n) = some n := by
  decide

/-- A triple is read as the byte it writes. -/
theorem percent_decode_percent_byte (byte : UInt8) (rest : List Char) :
    percentDecode (percentByte byte ++ rest) = byte :: percentDecode rest := by
  have hhigh := hex_value_capital_hex_digit (byte.toNat / 16)
    (Nat.div_lt_of_lt_mul byte.toNat_lt)
  have hlow := hex_value_capital_hex_digit (byte.toNat % 16) (Nat.mod_lt _ (by decide))
  have hbyte : UInt8.ofNat (16 * (byte.toNat / 16) + byte.toNat % 16) = byte := by
    rw [Nat.div_add_mod]
    exact UInt8.ofNat_toNat
  simp only [percentByte, List.cons_append, List.nil_append, percentDecode, hhigh, hlow, hbyte]

theorem percent_decode_bytes (bytes : List UInt8) (rest : List Char) :
    percentDecode (bytes.flatMap percentByte ++ rest) = bytes ++ percentDecode rest := by
  induction bytes with
  | nil => rfl
  | cons byte bytes ih =>
      rw [List.flatMap_cons, List.append_assoc, percent_decode_percent_byte, ih, List.cons_append]

/-- Anything but a percent sign stands for itself. -/
theorem percent_decode_cons (hc : c ≠ '%') (rest : List Char) :
    percentDecode (c :: rest) = String.utf8EncodeChar c ++ percentDecode rest := by
  rw [percentDecode]
  rintro a b rest' rfl
  exact absurd rfl hc

/-! ## Encoded texts -/

theorem percent_encode_cons :
    percentEncode escapes (c :: cs) = percentChar escapes c ++ percentEncode escapes cs :=
  rfl

/-- Decoding gives the bytes of what was encoded. -/
theorem percent_decode_percent_encode (h : escapes '%') :
    percentDecode (percentEncode escapes cs) = utf8 cs := by
  induction cs with
  | nil => rfl
  | cons c cs ih =>
      rw [percent_encode_cons, percentChar, utf8_cons]
      split
      · rw [percent_decode_bytes, ih]
      · next hc =>
        have hpercent : c ≠ '%' := fun heq => hc (heq ▸ h)
        rw [List.singleton_append, percent_decode_cons hpercent, ih]

/-- Different texts are encoded differently. -/
theorem percent_encode_inj (h : escapes '%')
    (heq : percentEncode escapes cs = percentEncode escapes ds) : cs = ds := by
  apply utf8_inj
  rw [← percent_decode_percent_encode h, heq, percent_decode_percent_encode h]

/-- What an encoded text holds are characters that stand for themselves, percent signs and
hexadecimal digits. -/
theorem mem_percent_encode (h : c ∈ percentEncode escapes cs) :
    (c ∈ cs ∧ escapes c = false) ∨ c ∈ "%0123456789ABCDEF".toList := by
  obtain ⟨d, hd, hc⟩ := List.mem_flatMap.mp h
  rw [percentChar] at hc
  split at hc
  · obtain ⟨byte, -, hc⟩ := List.mem_flatMap.mp hc
    have hdigit : ∀ n < 16, capitalHexDigit n ∈ "%0123456789ABCDEF".toList := by decide
    rw [percentByte, List.mem_cons, List.mem_cons, List.mem_singleton] at hc
    right
    obtain rfl | rfl | rfl := hc
    · decide
    · exact hdigit _ (Nat.div_lt_of_lt_mul byte.toNat_lt)
    · exact hdigit _ (Nat.mod_lt _ (by decide))
  · next hescapes =>
    obtain rfl := List.mem_singleton.mp hc
    exact Or.inl ⟨hd, Bool.not_eq_true _ ▸ hescapes⟩

end StatsBoard.Text
