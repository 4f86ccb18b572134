import Mathlib.Data.List.Induction
import StatsBoard.Registry

/-!
# What a series holds

However the samples arrive, a series holds the last `capacity` items of what it held at first
followed by the samples in order: `Series.extend_eq`.
-/

namespace StatsBoard

/-- All of a short list are its last items. -/
theorem last_items_of_le {α : Type} {count : Nat} {items : List α} (h : items.length ≤ count) :
    lastItems count items = items := by
  rw [lastItems, Nat.sub_eq_zero_of_le h, List.drop_zero]

/-- There are as many last items as asked for, or all of them. -/
theorem length_last_items {α : Type} (count : Nat) (items : List α) :
    (lastItems count items).length = min count items.length := by
  rw [lastItems, List.length_drop]
  omega

/-- Items before the last ones can be left out early. -/
theorem last_items_append {α : Type} (count : Nat) (first second : List α) :
    lastItems count (lastItems count first ++ second) = lastItems count (first ++ second) := by
  rcases Nat.le_total first.length count with hshort | hlong
  · rw [last_items_of_le hshort]
  · have hlength : (lastItems count first).length = count := by
      rw [lastItems, List.length_drop]
      omega
    have hfront : first.length - count ≤ first.length := by omega
    have htotal : (first ++ second).length - count = first.length - count + second.length := by
      rw [List.length_append]
      omega
    calc
      lastItems count (lastItems count first ++ second)
          = (lastItems count first ++ second).drop second.length := by
        rw [lastItems, List.length_append, hlength, Nat.add_sub_cancel_left]
      _ = ((first ++ second).drop (first.length - count)).drop second.length := by
        rw [lastItems, List.drop_append_of_le_length hfront]
      _ = lastItems count (first ++ second) := by
        rw [List.drop_drop, ← htotal, ← lastItems]

namespace Series

/-- A series has no more samples than its capacity. -/
def Fits (series : Series) : Prop :=
  series.samples.length ≤ series.capacity

variable {series : Series}

/-- Samples can be added in two parts. -/
theorem extend_append (first second : List Binary64) :
    series.extend (first ++ second) = (series.extend first).extend second :=
  List.foldl_append

/-- Added samples push out the oldest ones. -/
theorem extend_eq (h : series.Fits) (samples : List Binary64) :
    series.extend samples =
      ⟨series.capacity, lastItems series.capacity (series.samples ++ samples)⟩ := by
  induction samples using List.reverseRecOn with
  | nil =>
      rw [List.append_nil, last_items_of_le h]
      rfl
  | append_singleton samples sample ih =>
      calc
        series.extend (samples ++ [sample]) = (series.extend samples).append sample :=
          extend_append samples [sample]
        _ = ⟨series.capacity, lastItems series.capacity
              (lastItems series.capacity (series.samples ++ samples) ++ [sample])⟩ := by
          rw [ih]
          rfl
        _ = ⟨series.capacity, lastItems series.capacity
              (series.samples ++ (samples ++ [sample]))⟩ := by
          rw [last_items_append, List.append_assoc]

/-- Added samples do not change the capacity. -/
@[simp] theorem capacity_extend (samples : List Binary64) :
    (series.extend samples).capacity = series.capacity := by
  induction samples generalizing series with
  | nil => rfl
  | cons sample samples ih => exact ih

/-- A series that fits goes on fitting. -/
theorem Fits.extend (h : series.Fits) (samples : List Binary64) : (series.extend samples).Fits := by
  rw [extend_eq h, Fits, length_last_items]
  exact Nat.min_le_left ..

/-- A series that fits never gets shorter. -/
theorem Fits.length_le_extend (h : series.Fits) (samples : List Binary64) :
    series.samples.length ≤ (series.extend samples).samples.length := by
  rw [extend_eq h, length_last_items, List.length_append]
  exact Nat.le_min.mpr ⟨h, Nat.le_add_right ..⟩

end Series

namespace SeriesLayout

/-- What a new series holds. -/
def initial (layout : SeriesLayout) : List Binary64 :=
  if layout.prefill then List.replicate layout.capacity .zero else []

/-- A new series has the configured capacity. -/
theorem fresh_series_eq (layout : SeriesLayout) :
    layout.freshSeries = ⟨layout.capacity, layout.initial⟩ := by
  rw [freshSeries, initial]
  split <;> rfl

/-- A new series fits. -/
theorem fits_fresh_series (layout : SeriesLayout) : layout.freshSeries.Fits := by
  rw [fresh_series_eq, Series.Fits, initial]
  split <;> simp

end SeriesLayout

end StatsBoard
