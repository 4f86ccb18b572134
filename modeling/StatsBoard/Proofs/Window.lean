import Mathlib.Data.List.Basic
import StatsBoard.Proofs.Series

/-!
# A series is a window

However samples are added to a new series, one by one or many at once, it holds the last of all that
were ever there, as many as fit (`Series.holds_last_samples`). The last items of a list are the end
of it of the right length (`eq_last_items_iff`), and what is left when items are dropped at the
front one after the other until the rest fits (`evict_eq_last_items`).
-/

namespace StatsBoard

variable {α : Type} {capacity : Nat} {all window : List α}

/-! ## The last items of a list -/

/-- The window is the end of a list, of full length or else the whole list. -/
structure IsWindow (capacity : Nat) (all window : List α) : Prop where
  suffix : window <:+ all
  length : window.length = min capacity all.length

/-- The last items are the only window onto a list. -/
theorem eq_last_items_iff : window = lastItems capacity all ↔ IsWindow capacity all window := by
  constructor
  · rintro rfl
    exact ⟨List.drop_suffix _ _, length_last_items capacity all⟩
  · rintro ⟨hsuffix, hlength⟩
    have hdropped : all.length - window.length = all.length - capacity := by omega
    rw [List.suffix_iff_eq_drop.mp hsuffix, lastItems, hdropped]

/-- The last items are a window. -/
theorem is_window_last_items : IsWindow capacity all (lastItems capacity all) :=
  eq_last_items_iff.mp rfl

/-- Drop items at the front, one after the other, until the rest fits. -/
def evict (capacity : Nat) : List α → List α
  | [] => []
  | item :: rest => if rest.length < capacity then item :: rest else evict capacity rest

/-- What is left are the last items. -/
theorem evict_eq_last_items (all : List α) : evict capacity all = lastItems capacity all := by
  induction all with
  | nil => rw [evict, lastItems, List.drop_nil]
  | cons item rest ih =>
      rw [evict]
      split
      next hfits => exact (last_items_of_le hfits).symm
      next hfull =>
        -- One more item has to be dropped than from the rest alone.
        have hdropped : (item :: rest).length - capacity = rest.length - capacity + 1 := by
          rw [List.length_cons]
          omega
        rw [ih, lastItems, lastItems, hdropped, List.drop_succ_cons]

/-- Adding an item to a list of any length leaves the last items. -/
theorem push_capped_eq_evict (items : List α) (item : α) :
    pushCapped capacity items item = evict capacity (items ++ [item]) :=
  (evict_eq_last_items _).symm

/-- The last of the last items is the last of all, if there is room for one. -/
theorem get_last_last_items (all : List α) :
    (lastItems capacity all).getLast? = if capacity = 0 then none else all.getLast? := by
  split
  next hnone =>
    rw [lastItems, hnone, Nat.sub_zero, List.drop_length]
    rfl
  next hsome =>
    rw [lastItems, List.getLast?_drop]
    split
    next hempty =>
      have hnil : all = [] := List.length_eq_zero_iff.mp (by omega)
      rw [hnil, List.getLast?_nil]
    next => rfl

/-! ## Additions to a series -/

namespace Series

/-- A way of adding samples to a series. -/
inductive Addition where
  | one (sample : Binary64)
  | many (samples : List Binary64)

namespace Addition

/-- The samples that are added. -/
def samples : Addition → List Binary64
  | one sample => [sample]
  | many samples => samples

/-- Add the samples to a series. -/
def perform (series : Series) : Addition → Series
  | one sample => series.append sample
  | many samples => series.extend samples

/-- Any addition is one of many samples. -/
theorem perform_eq (series : Series) (addition : Addition) :
    addition.perform series = series.extend addition.samples := by
  cases addition <;> rfl

end Addition

/-- All samples of some additions, in order. -/
def added (additions : List Addition) : List Binary64 :=
  additions.flatMap Addition.samples

/-- Make some additions to a series, in order. -/
def addAll (series : Series) (additions : List Addition) : Series :=
  additions.foldl Addition.perform series

variable {series : Series}

/-- Additions are one addition of all their samples. -/
theorem add_all_eq (series : Series) (additions : List Addition) :
    series.addAll additions = series.extend (added additions) := by
  induction additions generalizing series with
  | nil => rfl
  | cons addition additions ih =>
      calc
        series.addAll (addition :: additions) = (addition.perform series).addAll additions := rfl
        _ = (series.extend addition.samples).extend (added additions) := by
          rw [ih, addition.perform_eq]
        _ = series.extend (added (addition :: additions)) := by
          rw [← extend_append, added, added, List.flatMap_cons]

/-- A new series fits, whether it is empty or full of zeros. -/
theorem fits_of_new (h : series = .empty capacity ∨ series = .zeroed capacity) :
    series.Fits ∧ series.capacity = capacity := by
  rcases h with rfl | rfl
  · exact ⟨Nat.zero_le _, rfl⟩
  · exact ⟨Nat.le_of_eq List.length_replicate, rfl⟩

/-- Whatever is added to a new series and in whatever way, the series holds the last samples of
those that it held at first and those that were added, as many as fit into its capacity. The latest
sample is the last of all of them, unless there is none or no room for one. The series would be the
same if the samples were added one by one. Adding an item to any list, however long, leaves the last
of the items and the new one, as if items were dropped one by one. -/
theorem holds_last_samples (hnew : series = .empty capacity ∨ series = .zeroed capacity)
    (additions : List Addition) :
    IsWindow capacity (series.samples ++ added additions) (series.addAll additions).samples ∧
    (series.addAll additions).capacity = capacity ∧
    (series.addAll additions).latest? =
      (if capacity = 0 then none else (series.samples ++ added additions).getLast?) ∧
    series.addAll additions = series.addAll ((added additions).map .one) ∧
    ∀ {α : Type} (limit : Nat) (items : List α) (item : α),
      IsWindow limit (items ++ [item]) (pushCapped limit items item) ∧
      pushCapped limit items item = evict limit (items ++ [item]) := by
  obtain ⟨hfits, hcapacity⟩ := fits_of_new hnew
  have hall : series.addAll additions =
      ⟨capacity, lastItems capacity (series.samples ++ added additions)⟩ := by
    rw [add_all_eq, extend_eq hfits, hcapacity]
  have hones : added ((added additions).map .one) = added additions := by
    rw [added, List.flatMap_map]
    exact List.flatMap_singleton' _
  refine ⟨?window, ?capacity, ?latest, ?ones, ?any⟩
  case window => exact eq_last_items_iff.mp (congrArg samples hall)
  case capacity => exact congrArg Series.capacity hall
  case latest => rw [latest?, hall, get_last_last_items]
  case ones => rw [add_all_eq, add_all_eq, hones]
  case any => exact fun limit items item => ⟨is_window_last_items, push_capped_eq_evict items item⟩

/-- A sample, a history of four, an empty one, and another sample. -/
def historyBetween : List Addition :=
  [.one (.ofInt 7), .many [.ofInt 1, .ofInt 2, .ofInt 3, .ofInt 4], .many [], .one (.ofInt 5)]

/-- Of a history that does not fit the end is kept, and a series without room stays empty. -/
theorem holds_last_samples_overflow :
    (zeroed 3).addAll historyBetween = ⟨3, [.ofInt 3, .ofInt 4, .ofInt 5]⟩ ∧
    IsWindow 3 ((zeroed 3).samples ++ added historyBetween)
      ((zeroed 3).addAll historyBetween).samples ∧
    ((empty 0).addAll historyBetween).latest? = none := by
  obtain ⟨hwindow, -⟩ := holds_last_samples (.inr (Eq.refl (zeroed 3))) historyBetween
  obtain ⟨-, -, hlatest, -⟩ := holds_last_samples (.inl (Eq.refl (empty 0))) historyBetween
  exact ⟨by decide +kernel, hwindow, hlatest⟩

end Series

end StatsBoard
