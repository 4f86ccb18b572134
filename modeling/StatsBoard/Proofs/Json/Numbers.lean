import Mathlib.Data.List.Basic
import Mathlib.Tactic.IntervalCases
import StatsBoard.Json.Decoder
import StatsBoard.Json.Printer
import StatsBoard.Proofs.Success
import StatsBoard.Proofs.Text

/-!
# Numbers in JSON text

A number that is printed inside a document is read there as it would be read alone
(`ReadsBack.read_as`): the characters that may follow a value continue no number. Integers of 64
bits are read as what was printed (`reads_back_integer`). Of the other numbers that cannot be said:
the reader takes the significand and the power of ten in two steps, each of which rounds, and may
end at a neighbour of the number that was printed. `ReadsBack` says of a number that this does not
happen.
-/

namespace StatsBoard

namespace Json

open Text

/-! ## Numbers inside a document -/

/-- What may follow a value inside a document: nothing, or a character that continues no number. -/
def Delimited (rest : List Char) : Prop :=
  ∀ c ∈ rest.head?, c = ',' ∨ c = ']' ∨ c = '}' ∨ c = '\n'

/-- A text is read as the given tokens wherever a value may end after it. -/
def ReadAs (text : List Char) (tokens : List Token) : Prop :=
  ∀ rest, Delimited rest →
    tokensFrom .between (text ++ rest) = tokens ++ tokensFrom .between rest

variable {phase : NumberPhase} {parts : NumberParts} {n : Number} {text rest : List Char}

/-! ## One character of a text -/

theorem tokens_between_nil : tokensFrom .between [] = [] :=
  rfl

theorem tokens_between_cons (c : Char) (rest : List Char) :
    tokensFrom .between (c :: rest) =
      match beginToken c with
      | some (tokens, state) => tokens ++ tokensFrom state rest
      | none => [malformedToken] :=
  rfl

theorem tokens_number_nil : tokensFrom (.number phase parts) [] =
    if phase.complete then [.bare parts.draft]
    else [.bare (.broken ⟨.endOfText, .malformed, .endOfText⟩)] :=
  rfl

/-- What ends a number is read as if it stood after a blank. -/
theorem tokens_number_cons (c : Char) (rest : List Char) :
    tokensFrom (.number phase parts) (c :: rest) =
      match numberStep phase parts c with
      | some (phase, parts) => tokensFrom (.number phase parts) rest
      | none =>
        if phase.complete ∧ ¬ (phase = .zero ∧ isDigit c) then
          .bare parts.draft :: tokensFrom .between (c :: rest)
        else [malformedToken] :=
  rfl

theorem tokens_string_cons (reversed : List Char) (lone : Bool) (escape : EscapePhase) (c : Char)
    (rest : List Char) :
    tokensFrom (.string reversed lone escape) (c :: rest) =
      match stringStep reversed lone escape c with
      | .finished draft => .quoted draft :: tokensFrom .between rest
      | .problem lone => brokenString lone .malformed
      | .continue state => tokensFrom state rest :=
  rfl

/-! ## Numbers at the end of a text and before others -/

/-- A string that is not finished goes on. -/
theorem string_of_continue {reversed : List Char} {lone : Bool} {escape : EscapePhase} {c : Char}
    {state : LexState} (h : stringStep reversed lone escape c = .continue state) :
    ∃ reversed lone escape, state = .string reversed lone escape := by
  unfold stringStep plainStep backslashStep finishHex at h
  repeat' split at h
  all_goals
    cases h
    try exact ⟨_, _, _, rfl⟩

/-- A text without tokens is blank, and nothing is open after it. -/
theorem tokens_of_blank {state : LexState} (h : tokensFrom state text = []) (rest : List Char) :
    state = .between ∧ tokensFrom .between (text ++ rest) = tokensFrom .between rest := by
  fun_induction tokensFrom state text with
  | case1 => exact ⟨rfl, rfl⟩
  | case6 c text tokens state hbegin ih =>
      obtain ⟨rfl, hblank⟩ := List.append_eq_nil_iff.mp h
      obtain ⟨rfl, hrest⟩ := ih hblank
      exact ⟨rfl, by rw [List.cons_append, tokens_between_cons, hbegin]; exact hrest⟩
  | case17 reversed lone escape c text state hstep ih =>
      obtain ⟨_, _, _, rfl⟩ := string_of_continue hstep
      cases (ih h).1
  | _ => simp_all [malformedToken, brokenString]

/-- A character that may follow a value continues no number. -/
theorem number_step_of_delimited {c : Char} (h : Delimited (c :: rest)) (hphase : phase.complete) :
    numberStep phase parts c = none ∧ isDigit c = false := by
  have hc : isDigit c = false ∧ c ≠ '.' ∧ c ≠ 'e' ∧ c ≠ 'E' := by
    rcases h c rfl with rfl | rfl | rfl | rfl <;> decide
  cases phase <;> simp_all [numberStep, NumberPhase.complete]

/-- A character that continues a number belongs to it. -/
theorem tokens_number_step {next : NumberPhase × NumberParts} {c : Char}
    (h : numberStep phase parts c = some next) :
    tokensFrom (.number phase parts) (c :: rest) =
      tokensFrom (.number next.1 next.2) rest := by
  rw [tokens_number_cons, h]

/-- A character that cannot continue a number ends it. -/
theorem tokens_number_stop {c : Char} (h : numberStep phase parts c = none)
    (hends : phase.complete ∧ ¬ (phase = .zero ∧ isDigit c)) :
    tokensFrom (.number phase parts) (c :: rest) =
      .bare parts.draft :: tokensFrom .between (c :: rest) := by
  rw [tokens_number_cons, h]
  exact if_pos hends

/-- A character that can neither continue nor end a number breaks it. -/
theorem tokens_number_break {c : Char} (h : numberStep phase parts c = none)
    (hends : ¬ (phase.complete ∧ ¬ (phase = .zero ∧ isDigit c))) :
    tokensFrom (.number phase parts) (c :: rest) = [malformedToken] := by
  rw [tokens_number_cons, h]
  exact if_neg hends

/-- A number ends where a value may end. -/
theorem tokens_number_of_delimited (h : phase.complete) (hrest : Delimited rest) :
    tokensFrom (.number phase parts) rest = .bare parts.draft :: tokensFrom .between rest := by
  cases rest with
  | nil => rw [tokens_number_nil, if_pos h, tokens_between_nil]
  | cons c rest =>
      obtain ⟨hstep, hdigit⟩ := @number_step_of_delimited phase parts rest c hrest h
      exact tokens_number_stop hstep ⟨h, by simp [hdigit]⟩

/-- A number that ends a text is the same number where a value may end after it. -/
theorem tokens_number_append (h : tokensFrom (.number phase parts) text = [.bare (.number n)])
    (hrest : Delimited rest) :
    tokensFrom (.number phase parts) (text ++ rest) =
      .bare (.number n) :: tokensFrom .between rest := by
  induction text generalizing phase parts with
  | nil =>
      rw [tokens_number_nil] at h
      split at h
      · next hcomplete =>
        rw [List.nil_append, tokens_number_of_delimited hcomplete hrest, (List.cons.inj h).1]
      · cases h
  | cons c text ih =>
      rw [List.cons_append]
      cases hstep : numberStep phase parts c with
      | some next =>
          rw [tokens_number_step hstep] at h ⊢
          exact ih h
      | none =>
          by_cases hends : phase.complete ∧ ¬ (phase = .zero ∧ isDigit c)
          · -- The number has ended before, so that only blanks can follow it.
            rw [tokens_number_stop hstep hends] at h ⊢
            obtain ⟨hnumber, hblank⟩ := List.cons.inj h
            rw [hnumber, ← List.cons_append, (tokens_of_blank hblank rest).2]
          · rw [tokens_number_break hstep hends] at h
            cases h

/-- A text that begins like a number holds a number or breaks there. -/
theorem tokens_number_head (text : List Char) :
    ∃ draft tokens, tokensFrom (.number phase parts) text = .bare draft :: tokens := by
  induction text generalizing phase parts with
  | nil =>
      rw [tokens_number_nil]
      split <;> exact ⟨_, _, rfl⟩
  | cons c text ih =>
      cases hstep : numberStep phase parts c with
      | some next =>
          rw [tokens_number_step hstep]
          exact ih
      | none =>
          rw [tokens_number_cons, hstep]
          dsimp only
          split <;> exact ⟨_, _, rfl⟩

/-- A digit begins a number. -/
theorem begin_token_of_digit {c : Char} (h : isDigit c) :
    beginToken c = some ([], .number (if c = '0' then .zero else .whole)
      { significand := digitValue c }) := by
  obtain ⟨hlow, hhigh⟩ := is_digit_iff.mp h
  rw [← Char.ofNat_toNat c]
  interval_cases c.toNat <;> rfl

/-- The text begins like a number: with a minus sign or a digit. -/
def BeginsNumber (text : List Char) : Prop :=
  ∃ c rest, text = c :: rest ∧ (c = '-' ∨ isDigit c)

/-- A text that begins like a number is read as one from its second character on. -/
theorem BeginsNumber.tokens_append (h : BeginsNumber text) : ∃ phase parts more, ∀ rest,
    tokensFrom .between (text ++ rest) = tokensFrom (.number phase parts) (more ++ rest) := by
  obtain ⟨c, more, rfl, hc⟩ := h
  obtain ⟨phase, parts, hbegin⟩ : ∃ phase parts, beginToken c = some ([], .number phase parts) := by
    rcases hc with rfl | hdigit
    · exact ⟨_, _, rfl⟩
    · exact ⟨_, _, begin_token_of_digit hdigit⟩
  exact ⟨phase, parts, more, fun rest => by
    rw [List.cons_append, tokens_between_cons, hbegin]
    rfl⟩

/-! ## Numbers that are read back -/

/-- Only the draft of a number has a number as its value. -/
theorem eq_number_of_decoder {draft : Draft} {room : Nat}
    (h : decoder room draft = .ok (number n)) : draft = .number n := by
  cases draft with
  | number value =>
      rw [decoder, ofDraft] at h
      cases h
      rfl
  | array items ending =>
      rw [decoder, ofDraft] at h
      split at h
      · cases h
      · obtain ⟨_, _, h⟩ := bind_eq_ok_iff.mp h
        obtain ⟨_, _, h⟩ := bind_eq_ok_iff.mp h
        cases h
  | object members ending =>
      rw [decoder, ofDraft] at h
      split at h
      · cases h
      · obtain ⟨_, _, h⟩ := bind_eq_ok_iff.mp h
        obtain ⟨_, _, h⟩ := bind_eq_ok_iff.mp h
        cases h
  | null | bool | string | unreadable | broken =>
      rw [decoder, ofDraft] at h
      cases h

/-- A document that consists of a number is one token. -/
theorem tokens_of_parse (hbegins : BeginsNumber text)
    (h : parse (String.ofList text) = .ok (number n)) : tokens text = [.bare (.number n)] := by
  obtain ⟨phase, parts, more, hmore⟩ := hbegins.tokens_append
  have hmore := hmore []
  rw [List.append_nil, List.append_nil] at hmore
  obtain ⟨draft, others, hhead⟩ := @tokens_number_head phase parts more
  have htokens : tokens text = .bare draft :: others := hmore.trans hhead
  rw [parse, read, Json.draft, String.toList_ofList, htokens] at h
  obtain ⟨value, hvalue, hend⟩ := bind_eq_ok_iff.mp h
  rw [htokens]
  cases others with
  | nil =>
      obtain rfl : value = number n := by simpa [parseFrom] using hend
      have hnumber : draft = .number n := eq_number_of_decoder hvalue
      rw [hnumber]
  | cons token others => simp [parseFrom] at hend

/-- A number that is read when it stands alone is read wherever a value may end after it. -/
theorem read_as_of_parse (hbegins : BeginsNumber text)
    (h : parse (String.ofList text) = .ok (number n)) : ReadAs text [.bare (.number n)] := by
  intro rest hrest
  have hlone := tokens_of_parse hbegins h
  obtain ⟨phase, parts, more, hmore⟩ := hbegins.tokens_append
  have hstart := hmore []
  rw [List.append_nil, List.append_nil] at hstart
  rw [hmore, tokens_number_append (hstart.symm.trans hlone) hrest]
  rfl

/-! ## Integers -/

/-- Digits before the point belong to the significand as long as it fits 64 bits. -/
theorem tokens_number_digits {digits : List Char} (hdigits : ∀ c ∈ digits, isDigit c)
    (hfull : parts.full = false) (hsize : digitsValue parts.significand digits < UInt64.size)
    (rest : List Char) :
    tokensFrom (.number .whole parts) (digits ++ rest) =
      tokensFrom
        (.number .whole { parts with significand := digitsValue parts.significand digits })
        rest := by
  induction digits generalizing parts with
  | nil => rfl
  | cons c digits ih =>
      obtain ⟨hc, hdigits⟩ := List.forall_mem_cons.mp hdigits
      have hfits : 10 * parts.significand + digitValue c < UInt64.size :=
        Nat.lt_of_le_of_lt (le_digits_value _ digits) hsize
      have hwhole : parts.addWhole (digitValue c) =
          { parts with significand := 10 * parts.significand + digitValue c } := by
        simp [NumberParts.addWhole, hfull, Nat.not_le.mpr hfits]
      have hstep : numberStep .whole parts c = some (.whole, parts.addWhole (digitValue c)) := by
        simp [numberStep, hc]
      rw [List.cons_append, tokens_number_step hstep, hwhole]
      exact ih hdigits hfull hsize

/-- The numeral of a number that is not zero is read as a significand, after a minus sign or
without one. -/
theorem tokens_nat_digits {k : Nat} (hk : k ≠ 0) (hsize : k < UInt64.size) (rest : List Char) :
    tokensFrom .between (natDigits k ++ rest) =
        tokensFrom (.number .whole { significand := k }) rest ∧
      tokensFrom (.number .sign { negative := true }) (natDigits k ++ rest) =
        tokensFrom (.number .whole { negative := true, significand := k }) rest := by
  have hvalue := @digits_value_nat_digits k
  have hhead := head_nat_digits_ne_zero hk
  have hdigits : ∀ c ∈ natDigits k, isDigit c := fun c => is_digit_of_mem_nat_digits
  generalize natDigits k = digits at hvalue hhead hdigits
  cases digits with
  | nil => exact absurd hvalue.symm hk
  | cons c digits =>
      obtain ⟨hc, hdigits⟩ := List.forall_mem_cons.mp hdigits
      have hzero : c ≠ '0' := fun h => hhead (h ▸ rfl)
      have hrest : digitsValue (digitValue c) digits = k := by
        rw [← hvalue, digitsValue, digitsValue, List.foldl_cons, Nat.mul_zero, Nat.zero_add]
      have hfirst : digitValue c < UInt64.size :=
        Nat.lt_of_le_of_lt (hrest ▸ le_digits_value _ digits) hsize
      have hwhole : ({ negative := true } : NumberParts).addWhole (digitValue c) =
          { negative := true, significand := digitValue c } := by
        simp [NumberParts.addWhole, Nat.not_le.mpr hfirst]
      have hstep : numberStep .sign { negative := true } c =
          some (.whole, { negative := true, significand := digitValue c }) := by
        rw [← hwhole]
        simp [numberStep, hzero, hc]
      constructor
      · rw [List.cons_append, tokens_between_cons, begin_token_of_digit hc, if_neg hzero, ← hrest]
        exact tokens_number_digits hdigits rfl (hrest ▸ hsize) rest
      · rw [List.cons_append, tokens_number_step hstep, ← hrest]
        exact tokens_number_digits hdigits rfl (hrest ▸ hsize) rest

/-- A natural number of 64 bits is an integer of 64 bits. -/
theorem in_range_of_lt {k : Nat} (h : k < UInt64.size) : Number.inRange k := by
  have hlow : Int64.minValue.toInt ≤ (k : Int) :=
    Int.le_trans (by decide) (Int.natCast_nonneg k)
  rw [Number.inRange, Bool.and_eq_true, decide_eq_true_eq, decide_eq_true_eq]
  exact ⟨hlow, Int.ofNat_lt.mpr h⟩

/-- Integers of 64 bits are read as what was printed. -/
theorem read_as_integer {i : Int} (h : Number.inRange i) :
    ReadAs (numberChars (.integer i)) [.bare (.number (.integer i))] := by
  intro rest hrest
  have hrange : -(2 ^ 63 : Int) ≤ i ∧ i < 2 ^ 64 := by
    simpa [Number.inRange] using h
  have hsize : i.natAbs < UInt64.size := by
    rw [show UInt64.size = 2 ^ 64 from rfl]
    omega
  -- What is left to say after the digits: the draft of the parts read so far.
  have hend : ∀ parts : NumberParts, parts.draft = .number (.integer i) →
      tokensFrom (.number .whole parts) rest =
        .bare (.number (.integer i)) :: tokensFrom .between rest := by
    intro parts hdraft
    rw [tokens_number_of_delimited rfl hrest, hdraft]
  rcases lt_trichotomy i 0 with hneg | rfl | hpos
  · have hchars : numberChars (.integer i) = '-' :: natDigits i.natAbs := by
      simp [numberChars, intNumeral, hneg, natNumeral]
    have hdraft : NumberParts.draft { negative := true, significand := i.natAbs } =
        .number (.integer i) := by
      have hi : -(i.natAbs : Int) = i := by omega
      simp [NumberParts.draft, -Nat.cast_natAbs, hi, h, Int.ne_of_lt hneg]
    rw [hchars, List.cons_append, List.singleton_append, ← hend _ hdraft,
      ← (tokens_nat_digits (by omega) hsize rest).2]
    rfl
  · exact tokens_number_of_delimited rfl hrest
  · have hchars : numberChars (.integer i) = natDigits i.natAbs := by
      simp [numberChars, intNumeral, Int.not_lt.mpr (Int.le_of_lt hpos), natNumeral]
    have hdraft : NumberParts.draft { significand := i.natAbs } = .number (.integer i) := by
      have hi : (i.natAbs : Int) = i := by omega
      simp [NumberParts.draft, hi, h]
    rw [hchars, (tokens_nat_digits (by omega) hsize rest).1, hend _ hdraft]
    rfl

/-! ## Real numbers -/

/-- A numeral begins with a digit. -/
theorem nat_digits_head (k : Nat) : ∃ c rest, natDigits k = c :: rest ∧ isDigit c := by
  have hne : natDigits k ≠ [] := Nat.toDigits_ne_nil
  have hdigits : ∀ c ∈ natDigits k, isDigit c := fun c => is_digit_of_mem_nat_digits
  cases hk : natDigits k with
  | nil => exact absurd hk hne
  | cons c rest => exact ⟨c, rest, rfl, hdigits c (hk ▸ List.mem_cons_self)⟩

/-- The text of an integer begins like a number. -/
theorem begins_number_integer (i : Int) : BeginsNumber (numberChars (.integer i)) := by
  obtain ⟨c, rest, hdigits, hc⟩ := nat_digits_head i.natAbs
  by_cases hneg : i < 0
  · exact ⟨'-', natDigits i.natAbs, by simp [numberChars, intNumeral, hneg, natNumeral], .inl rfl⟩
  · exact ⟨c, rest, by simp [numberChars, intNumeral, hneg, natNumeral, hdigits], .inr hc⟩

/-- A positional numeral begins with a digit. -/
theorem positional_head {c : Char} {digits : List Char} (hc : isDigit c) (exponent : Int) :
    ∃ d rest, positional (c :: digits) exponent = d :: rest ∧ isDigit d := by
  unfold positional
  split
  · exact ⟨_, _, rfl, rfl⟩
  · exact ⟨_, _, rfl, hc⟩

/-- A scientific numeral begins with a digit. -/
theorem scientific_head {c : Char} {digits : List Char} (hc : isDigit c) (exponent : Int) :
    ∃ d rest, scientific (c :: digits) exponent = d :: rest ∧ isDigit d := by
  cases digits with
  | nil => exact ⟨_, _, rfl, hc⟩
  | cons d digits => exact ⟨_, _, rfl, hc⟩

/-- The text of a finite number begins like a number. -/
theorem begins_number_real {x : Binary64} (hx : x.isFinite) : BeginsNumber (realChars x) := by
  have hbody : ∃ d rest, (if x.magnitude = 0 then "0.0".toList
      else
        let decimal := x.shortest
        let digits := natDigits decimal.digits
        let exponent := decimal.scale + digits.length - 1
        if positionalExponents.1 ≤ exponent ∧ exponent ≤ positionalExponents.2 then
          positional digits exponent
        else scientific digits exponent) = d :: rest ∧ isDigit d := by
    obtain ⟨c, digits, hdigits, hc⟩ := nat_digits_head x.shortest.digits
    dsimp only
    rw [hdigits]
    split
    · exact ⟨_, _, rfl, rfl⟩
    · split
      · exact positional_head hc _
      · exact scientific_head hc _
  obtain ⟨d, rest, hbody, hd⟩ := hbody
  unfold realChars
  dsimp only at hbody ⊢
  rw [hbody, hx]
  cases x.negative with
  | false => exact ⟨d, rest, rfl, .inr hd⟩
  | true => exact ⟨'-', d :: rest, rfl, .inl rfl⟩

/-- The number is read as what is printed of it. -/
def ReadsBack (n : Number) : Prop :=
  parse (number n).compact = .ok (number n)

instance (n : Number) : Decidable (ReadsBack n) :=
  inferInstanceAs (Decidable (parse (number n).compact = .ok (number n)))

/-- A finite number may be read as its neighbour, here the one above `31.245270191439438`. -/
example : ¬ ReadsBack (.real ⟨0x403f3eca06faea82⟩) := by decide +kernel

/-- Integers of 64 bits are read back. -/
theorem reads_back_integer {i : Int} (h : Number.inRange i) : ReadsBack (.integer i) := by
  have htokens : tokens (numberChars (.integer i)) = [.bare (.number (.integer i))] := by
    have hread := read_as_integer h [] (fun _ hc => nomatch hc)
    rwa [List.append_nil] at hread
  rw [ReadsBack, compact, compactChars, parse, read, Json.draft, String.toList_ofList, htokens]
  rfl

/-- Only finite numbers have a text that is read as a number. -/
theorem ReadsBack.is_finite {x : Binary64} (h : ReadsBack (.real x)) : x.isFinite := by
  by_contra hx
  have hnull : (number (.real x)).compact = "null" := by
    rw [compact, compactChars, numberChars, realChars, if_pos (by simp [hx]), String.ofList_toList]
  rw [ReadsBack, hnull] at h
  cases h

/-- A number that is read back is read wherever a value may end after it. -/
theorem ReadsBack.read_as (h : ReadsBack n) : ReadAs (numberChars n) [.bare (.number n)] := by
  cases n with
  | integer i => exact read_as_of_parse (begins_number_integer i) h
  | real x => exact read_as_of_parse (begins_number_real h.is_finite) h

end Json

end StatsBoard
