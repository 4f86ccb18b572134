import Mathlib.Data.Rat.Floor
import StatsBoard.Config.Resolution
import StatsBoard.Engine
import StatsBoard.Proofs.Clamping
import StatsBoard.Proofs.Text
import StatsBoard.Stream.Event

/-!
# Labels

The label of a metric shows the integer part of the most recent sample. A finite word stands for a
rational number (`Binary64.value`), and `Binary64.integerPart` is that number rounded toward zero.
What is shown of it is brought into the range of 64-bit integers first, so that the label is right
exactly for the samples whose integer part lies there: `Metric.label_right_iff_fits`. Samples of a
metric without bounds need not: `Engine.label_of_ten_quintillions`.
-/

namespace StatsBoard

/-! ## The integer part -/

namespace Binary64

variable {x : Binary64}

/-- The rational number that a finite word stands for. -/
def value (x : Binary64) : ℚ :=
  (if x.negative then -1 else 1) * (x.significand * 2 ^ x.exponent)

/-- A rational number rounded toward zero. -/
def truncated (q : ℚ) : ℤ :=
  if 0 ≤ q then ⌊q⌋ else ⌈q⌉

theorem truncated_of_nonneg {q : ℚ} (hq : 0 ≤ q) : truncated q = ⌊q⌋ :=
  if_pos hq

/-- Rounding toward zero does not depend on the sign. -/
theorem truncated_neg (q : ℚ) : truncated (-q) = -truncated q := by
  unfold truncated
  rcases lt_trichotomy q 0 with hq | rfl | hq
  · rw [if_pos (by linarith), if_neg (by linarith), Int.floor_neg]
  · simp
  · rw [if_neg (by linarith), if_pos hq.le, Int.ceil_neg]

/-- The fraction of a number is its absolute value. -/
theorem ratio_eq : (x.ratio.1 : ℚ) / x.ratio.2 = x.significand * 2 ^ x.exponent := by
  unfold ratio
  split
  next hexponent =>
    have hpower : (2 : ℚ) ^ x.exponent = 2 ^ x.exponent.toNat := by
      rw [← zpow_natCast, Int.toNat_of_nonneg hexponent]
    rw [Nat.shiftLeft_eq, hpower]
    push_cast
    ring
  next hexponent =>
    have hpower : (2 : ℚ) ^ x.exponent = (2 ^ (-x.exponent).toNat)⁻¹ := by
      rw [← zpow_natCast, Int.toNat_of_nonneg (by omega), zpow_neg, inv_inv]
    rw [Nat.shiftLeft_eq, hpower]
    push_cast
    ring

/-- The integer part is the value rounded toward zero. -/
theorem integer_part_eq : x.integerPart = truncated x.value := by
  have hquotient : truncated (x.significand * 2 ^ x.exponent) = (x.ratio.1 / x.ratio.2 : Nat) := by
    rw [← ratio_eq, truncated_of_nonneg (by positivity), Rat.floor_natCast_div_natCast,
      Int.natCast_ediv]
  rw [integerPart, value]
  cases x.negative with
  | false => simp only [Bool.false_eq_true, if_false, one_mul, hquotient]
  | true => simp only [if_true, neg_mul, one_mul, truncated_neg, hquotient]

/-- The integer part of a finite number is shown within the range of 64-bit integers. -/
theorem shown_integer_eq (hx : x.isFinite) :
    x.shownInteger = Max.max (-2 ^ 63) (min (truncated x.value) (2 ^ 63 - 1)) := by
  rw [shownInteger, saturate, not_nan_of_finite hx, hx, integer_part_eq]
  rfl

end Binary64

/-! ## The numeral -/

namespace Text

/-- The numeral of an integer is the usual one. -/
theorem int_numeral_eq (i : Int) : intNumeral i = toString i := by
  rw [Int.toString_eq_repr, Int.repr_eq_if, intNumeral]
  by_cases hi : i < 0
  · rw [if_pos hi, if_neg (by omega), show (-i).toNat = i.natAbs by omega]
    rfl
  · rw [if_neg hi, if_pos (by omega), show i.toNat = i.natAbs by omega]
    rfl

/-- No text begins with a numeral that is a negative zero. -/
theorem not_negative_zero_prefix (i : Int) (rest : List Char) :
    ¬ ['-', '0'] <+: (intNumeral i).toList ++ rest := by
  intro hzero
  have hdigits : natDigits i.natAbs ≠ [] := Nat.toDigits_ne_nil
  rw [intNumeral] at hzero
  split at hzero
  next hi =>
    have hhead : (natDigits i.natAbs ++ rest).head? ≠ some '0' := by
      rw [List.head?_append_of_ne_nil _ hdigits]
      exact head_nat_digits_ne_zero (by omega)
    rw [String.toList_append, natNumeral, String.toList_ofList (l := natDigits _),
      List.append_assoc] at hzero
    obtain ⟨-, after, hafter⟩ := List.cons_prefix_cons.mp hzero
    exact hhead (congrArg List.head? hafter.symm)
  next hi =>
    rw [natNumeral, String.toList_ofList] at hzero
    obtain ⟨c, digits, hc⟩ := List.exists_cons_of_ne_nil hdigits
    rw [hc, List.cons_append, List.cons_prefix_cons] at hzero
    have hminus : '-' ∈ natDigits i.natAbs := hc ▸ hzero.1 ▸ List.mem_cons_self
    exact absurd (is_digit_of_mem_nat_digits hminus) (by decide)

end Text

/-! ## The label -/

namespace Metric

open Binary64 (truncated shown_integer_eq)

variable {metric : Metric} {x : Binary64}

/-- A number with the unit of a metric, if it has one. -/
def withUnit (metric : Metric) (number : String) : String :=
  if metric.unit = "" then number else number ++ " " ++ metric.unit

theorem with_unit_inj {number other : String} (h : metric.withUnit number = metric.withUnit other) :
    number = other := by
  unfold withUnit at h
  split at h
  · exact h
  · rwa [String.append_left_inj, String.append_left_inj] at h

/-- A text begins like the number that it shows with a unit. -/
theorem prefix_with_unit (metric : Metric) (number : String) :
    number.toList <+: (metric.withUnit number).toList := by
  unfold withUnit
  split
  · exact List.prefix_refl _
  · rw [String.append_assoc, String.toList_append]
    exact List.prefix_append _ _

/-- The label of a sample is the integer that is shown of it, with the unit. -/
theorem label_some (metric : Metric) (x : Binary64) :
    metric.label (some x) = metric.withUnit (toString x.shownInteger) := by
  rw [← Text.int_numeral_eq]
  rfl

/-- The label of a finite sample is its integer part, rounded toward zero, with the unit if the
metric has one, exactly if that integer fits 64 bits. Otherwise it is the nearest integer that does.
It never begins with a negative zero. -/
theorem label_right_iff_fits (metric : Metric) (hx : x.isFinite) :
    (metric.label (some x) = metric.withUnit (toString (truncated x.value)) ↔
      -2 ^ 63 ≤ truncated x.value ∧ truncated x.value < 2 ^ 63) ∧
    (2 ^ 63 ≤ truncated x.value →
      metric.label (some x) = metric.withUnit (toString (2 ^ 63 - 1 : ℤ))) ∧
    (truncated x.value < -2 ^ 63 →
      metric.label (some x) = metric.withUnit (toString (-2 ^ 63 : ℤ))) ∧
    ¬ ['-', '0'] <+: (metric.label (some x)).toList := by
  have hshown := shown_integer_eq hx
  rw [label_some]
  refine ⟨⟨fun hright => ?_, fun hfits => ?_⟩, fun habove => ?_, fun hbelow => ?_, fun hzero => ?_⟩
  · rw [← Text.int_numeral_eq, ← Text.int_numeral_eq] at hright
    have hsame := Text.int_numeral_inj (with_unit_inj hright)
    omega
  · rw [show x.shownInteger = truncated x.value by omega]
  · rw [show x.shownInteger = 2 ^ 63 - 1 by omega]
  · rw [show x.shownInteger = -2 ^ 63 by omega]
  · obtain ⟨rest, hrest⟩ := prefix_with_unit metric (toString x.shownInteger)
    rw [← hrest, ← Text.int_numeral_eq] at hzero
    exact Text.not_negative_zero_prefix _ rest hzero

/-- A share of `42.9`, a duration just above `-1` and, as the counter of reads has no bounds, more
reads than the label can show. -/
theorem label_right_iff_fits_saturated :
    (Binary64.ofDecimal false 429 (-1)).isFinite ∧
    cpu.label (some (.ofDecimal false 429 (-1))) = "42 %" ∧
    (Binary64.ofDecimal true 9 (-1)).isFinite ∧
    age.label (some (.ofDecimal true 9 (-1))) = "0 s" ∧
    (Binary64.ofDecimal false 1 300).isFinite ∧
    truncated (Binary64.ofDecimal false 1 300).value ≥ 2 ^ 63 ∧
    reads.label (some (.ofDecimal false 1 300)) = "9223372036854775807" := by
  have hshare : (Binary64.ofDecimal false 429 (-1)).isFinite := by decide +kernel
  have hseconds : (Binary64.ofDecimal true 9 (-1)).isFinite := by decide +kernel
  have hreads : (Binary64.ofDecimal false 1 300).isFinite := by decide +kernel
  have hforty : truncated (Binary64.ofDecimal false 429 (-1)).value = 42 := by
    rw [← Binary64.integer_part_eq]
    decide +kernel
  have hzero : truncated (Binary64.ofDecimal true 9 (-1)).value = 0 := by
    rw [← Binary64.integer_part_eq]
    decide +kernel
  have hlarge : 2 ^ 63 ≤ truncated (Binary64.ofDecimal false 1 300).value := by
    rw [← Binary64.integer_part_eq]
    decide +kernel
  refine ⟨hshare, ?_, hseconds, ?_, hreads, hlarge, ?_⟩
  · rw [(label_right_iff_fits cpu hshare).1.mpr (by rw [hforty]; decide), hforty]
    rfl
  · rw [(label_right_iff_fits age hseconds).1.mpr (by rw [hzero]; decide), hzero]
    rfl
  · rw [(label_right_iff_fits reads hreads).2.1 hlarge]
    rfl

end Metric

/-! ## A counter that has grown large -/

namespace Engine

/-- A configuration that charts all sockets as one. -/
def readsOfSockets : Config where
  watchers := ["sockets"]
  capacity := 1

/-- What is drawn for one sample of the reads of all sockets. -/
def drawnReads (sample : Binary64) (label : String) : EntityFrame where
  entity := "sockets"
  kind := .ofAggregate "sockets"
  metrics := [⟨.reads, [sample], some sample, label, "#CC8E5D"⟩]

/-- The configuration can be used, and a message with `10 ^ 19` reads, which is the value of a word,
is stored and drawn. But the label is a smaller integer. -/
theorem label_of_ten_quintillions :
    readsOfSockets.validate = .ok () ∧ readsOfSockets.settings.mode = .push ∧
    StreamEvent.decode
        "\x7b\"name\":\"socket-stats\",\"args\":\x7b\"reads\":10000000000000000000\x7d\x7d" =
      .ok (some (.sample "socket-stats" [("reads", .number (.integer (10 ^ 19)))])) ∧
    ∃ sample, sample = Binary64.ofInt (10 ^ 19) ∧ sample.isFinite ∧ sample.value = 10 ^ 19 ∧
      ((Engine.new readsOfSockets.settings).start.handleEvent
        (.sample "socket-stats" [("reads", .number (.integer (10 ^ 19)))])).frames.getLast? =
          some (drawnReads sample "9223372036854775807") ∧
      Metric.reads.label (some sample) = "9223372036854775807" ∧
      Metric.reads.withUnit (toString (Binary64.truncated sample.value)) =
        "10000000000000000000" := by
  have hvalue : (Binary64.ofInt (10 ^ 19)).value = 10 ^ 19 := by
    have hsign : (Binary64.ofInt (10 ^ 19)).negative = false := by decide +kernel
    have hratio : (Binary64.ofInt (10 ^ 19)).ratio = (10 ^ 19, 1) := by decide +kernel
    rw [Binary64.value, ← Binary64.ratio_eq, hsign, hratio]
    norm_num
  have hinteger : Binary64.truncated (Binary64.ofInt (10 ^ 19)).value = 10 ^ 19 := by
    rw [← Binary64.integer_part_eq]
    decide +kernel
  refine ⟨by decide +kernel, rfl, by decide +kernel, _, rfl, by decide +kernel, hvalue,
    by decide +kernel, by decide +kernel, ?_⟩
  rw [hinteger]
  rfl

end Engine

end StatsBoard
