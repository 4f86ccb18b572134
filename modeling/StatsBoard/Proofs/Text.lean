import Mathlib.Data.List.Basic
import Mathlib.Data.List.TakeWhile
import StatsBoard.Text.Blank
import StatsBoard.Text.Numeral
import StatsBoard.Text.Split

/-!
# Cutting texts and reading numerals

A text is cut at a separator wherever it stands (`Text.split_append`) and rid of the blanks at its
ends. The numeral of a number is read as that number, so different numbers have different numerals.
-/

namespace StatsBoard.Text

variable {isSeparator : Char → Bool} {c : Char} {before after : List Char} {n : Nat}

/-! ## Pieces -/

theorem split_ne_nil : split isSeparator before ≠ [] := by
  cases before with
  | nil => exact List.cons_ne_nil _ _
  | cons c before =>
      rw [split]
      split
      · exact List.cons_ne_nil _ _
      · split <;> exact List.cons_ne_nil _ _

/-- A text is cut at a separator. -/
theorem split_append (hc : isSeparator c) :
    split isSeparator (before ++ c :: after) =
      split isSeparator before ++ split isSeparator after := by
  induction before with
  | nil => simp [split, hc]
  | cons d before ih =>
      rw [List.cons_append, split, split, ih]
      split
      · rfl
      · cases hpieces : split isSeparator before with
        | nil => exact absurd hpieces split_ne_nil
        | cons piece pieces => rfl

/-- A text without separators is one piece. -/
theorem split_of_not (h : ∀ c ∈ before, isSeparator c = false) :
    split isSeparator before = [before] := by
  induction before with
  | nil => rfl
  | cons c before ih =>
      obtain ⟨hc, hbefore⟩ := List.forall_mem_cons.mp h
      rw [split, hc, ih hbefore]
      rfl

/-- Pieces hold no separators. -/
theorem not_separator_of_mem_split {text piece : List Char} (h : piece ∈ split isSeparator text)
    (hc : c ∈ piece) : isSeparator c = false := by
  induction text generalizing piece with
  | nil =>
      obtain rfl := List.mem_singleton.mp h
      exact absurd hc List.not_mem_nil
  | cons d text ih =>
      rw [split] at h
      split at h
      · rcases List.mem_cons.mp h with rfl | h
        · exact absurd hc List.not_mem_nil
        · exact ih h hc
      · next hd =>
        have hd := Bool.eq_false_iff.mpr hd
        split at h
        · obtain rfl := List.mem_singleton.mp h
          exact List.mem_singleton.mp hc ▸ hd
        · next first pieces hpieces =>
          rcases List.mem_cons.mp h with rfl | h
          · rcases List.mem_cons.mp hc with rfl | hc
            · exact hd
            · exact ih (hpieces ▸ List.mem_cons_self) hc
          · exact ih (hpieces ▸ List.mem_cons_of_mem first h) hc

/-- What stands before a separator does not depend on what follows it. -/
theorem append_inj_of_not_mem {before' after' : List Char} (hbefore : c ∉ before)
    (hbefore' : c ∉ before') (hafter : after = [] ∨ after.head? = some c)
    (hafter' : after' = [] ∨ after'.head? = some c) (h : before ++ after = before' ++ after') :
    before = before' ∧ after = after' := by
  have htake : ∀ before after : List Char, c ∉ before → (after = [] ∨ after.head? = some c) →
      (before ++ after).takeWhile (· != c) = before := by
    intro before after hbefore hafter
    have hnone : after.takeWhile (· != c) = [] := by
      cases after with
      | nil => rfl
      | cons d after =>
          have hd : d = c := by simpa using hafter
          rw [hd, List.takeWhile_cons_of_neg (by simp)]
    have hall : ∀ d ∈ before, (d != c) = true := fun d hd =>
      bne_iff_ne.mpr fun heq => hbefore (heq ▸ hd)
    rw [List.takeWhile_append_of_pos hall, hnone, List.append_nil]
  have hbeq : before = before' := by
    rw [← htake before after hbefore hafter, h, htake before' after' hbefore' hafter']
  exact ⟨hbeq, List.append_cancel_left (hbeq ▸ h)⟩

/-! ## Blanks -/

/-- Nothing is left of a text without its blanks exactly if it is blank. -/
theorem trim_eq_empty_iff {s : String} : trim s = "" ↔ ∀ c ∈ s.toList, isBlank c := by
  rw [← String.toList_inj, trim, String.toList_ofList, trimChars, String.toList_empty,
    List.reverse_eq_nil_iff, List.dropWhile_eq_nil_iff]
  constructor
  · intro h c hc
    -- A character that is not blank stops the dropping, so it is left over.
    rw [← List.takeWhile_append_dropWhile (p := isBlank) (l := s.toList), List.mem_append] at hc
    rcases hc with hc | hc
    · exact List.mem_takeWhile_imp hc
    · exact h c (List.mem_reverse.mpr hc)
  · intro h c hc
    exact h c ((List.dropWhile_sublist isBlank).subset (List.mem_reverse.mp hc))

/-! ## Numerals -/

/-- The codes of the digits. -/
theorem is_digit_iff : isDigit c ↔ 48 ≤ c.toNat ∧ c.toNat ≤ 57 := by
  simp [isDigit, Char.le_def, UInt32.le_iff_toNat_le]

theorem is_digit_of_mem_nat_digits (h : c ∈ natDigits n) : isDigit c := by
  have hdigit := Nat.isDigit_of_mem_toDigits (by decide) (by decide) h
  simpa [Char.isDigit, isDigit, Char.le_def] using hdigit

/-- Reading the numeral of a number gives the number. -/
theorem digits_value_nat_digits : digitsValue 0 (natDigits n) = n :=
  Nat.ofDigitChars_ten_toDigits

/-- Different numbers have different numerals. -/
theorem nat_numeral_inj {m : Nat} (h : natNumeral m = natNumeral n) : m = n := by
  rw [← digits_value_nat_digits (n := m), ← digits_value_nat_digits (n := n),
    String.ofList_injective h]

theorem mem_int_numeral {i : Int} (h : c ∈ (intNumeral i).toList) : c = '-' ∨ isDigit c := by
  rw [intNumeral] at h
  split at h
  · rw [String.toList_append, List.mem_append] at h
    rcases h with h | h
    · exact Or.inl (List.mem_singleton.mp h)
    · exact Or.inr (is_digit_of_mem_nat_digits (String.toList_ofList ▸ h))
  · exact Or.inr (is_digit_of_mem_nat_digits (String.toList_ofList ▸ h))

/-- Different integers have different numerals. -/
theorem int_numeral_inj {i j : Int} (h : intNumeral i = intNumeral j) : i = j := by
  -- The numeral of a number begins with no minus sign.
  have hsign (m n : Nat) : "-" ++ natNumeral m ≠ natNumeral n := by
    intro hsign
    have hmem : '-' ∈ natDigits n := by
      rw [← String.toList_ofList (l := natDigits n), ← natNumeral, ← hsign, String.toList_append]
      exact List.mem_cons_self
    exact absurd (is_digit_of_mem_nat_digits hmem) (by decide)
  rw [intNumeral, intNumeral] at h
  split at h
  · split at h
    · have hdigits := nat_numeral_inj (String.append_right_inj "-" |>.mp h)
      omega
    · exact absurd h (hsign _ _)
  · split at h
    · exact absurd h.symm (hsign _ _)
    · have hdigits := nat_numeral_inj h
      omega

/-- Only the numeral of zero begins with a zero. -/
theorem head_nat_digits_ne_zero (hn : n ≠ 0) : (natDigits n).head? ≠ some '0' := by
  induction n using Nat.strongRecOn with
  | ind n ih =>
      by_cases hsmall : n < 10
      · rw [natDigits, Nat.toDigits_of_lt_base hsmall, List.head?_cons]
        intro hzero
        have hcode := congrArg Char.toNat (Option.some.inj hzero)
        rw [Nat.toNat_digitChar_of_lt_ten hsmall, show '0'.toNat = 48 from rfl] at hcode
        omega
      · have hrest : natDigits n = natDigits (n / 10) ++ [Nat.digitChar (n % 10)] :=
          Nat.toDigits_of_base_le (by decide) (by omega)
        have hne : natDigits (n / 10) ≠ [] := Nat.toDigits_ne_nil
        rw [hrest, List.head?_append_of_ne_nil _ hne]
        exact ih (n / 10) (by omega) (by omega)

/-- Further digits never make a value smaller. -/
theorem le_digits_value (start : Nat) (digits : List Char) : start ≤ digitsValue start digits := by
  induction digits generalizing start with
  | nil => exact Nat.le_refl start
  | cons c digits ih => exact Nat.le_trans (by omega) (ih (10 * start + digitValue c))

end StatsBoard.Text
