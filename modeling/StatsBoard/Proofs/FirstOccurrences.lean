import Mathlib.Data.List.Induction
import Mathlib.Data.List.Nodup

/-!
# First occurrences

A list without the items that occurred before, and a list of items with keys without those whose
key occurred before. Both keep the order of the list.
-/

namespace StatsBoard

/-- An item at the end counts exactly if it is new. -/
theorem erase_dups_concat {α : Type} [BEq α] [LawfulBEq α] (items : List α) (last : α) :
    (items ++ [last]).eraseDups =
      if items.contains last then items.eraseDups else items.eraseDups ++ [last] := by
  rw [List.eraseDups_append]
  by_cases hlast : last ∈ items <;> simp [List.removeAll, hlast, List.eraseDups_cons]

/-- No item occurs twice among the first occurrences. -/
theorem nodup_erase_dups {α : Type} [BEq α] [LawfulBEq α] (items : List α) :
    items.eraseDups.Nodup := by
  induction items using List.reverseRecOn with
  | nil => simp
  | append_singleton items last ih =>
      rw [erase_dups_concat]
      split
      next => exact ih
      next hnew =>
        refine List.nodup_append.mpr ⟨ih, List.nodup_singleton last, ?_⟩
        rintro item hitem _ hlast rfl
        rw [List.mem_eraseDups] at hitem
        simp [← List.mem_singleton.mp hlast, hitem] at hnew

/-- A list in which no item occurs twice has only first occurrences. -/
theorem erase_dups_of_nodup {α : Type} [BEq α] [LawfulBEq α] {items : List α} (h : items.Nodup) :
    items.eraseDups = items := by
  induction items using List.reverseRecOn with
  | nil => rfl
  | append_singleton items last ih =>
      obtain ⟨hitems, -, hnew⟩ := List.nodup_append.mp h
      have hlast : items.contains last = false := by
        rw [Bool.eq_false_iff, ne_eq, List.contains_iff_mem]
        exact fun hmem => hnew last hmem last (List.mem_singleton_self last) rfl
      rw [erase_dups_concat, hlast, ih hitems, if_neg Bool.false_ne_true]

/-- The first occurrences can be sought in two parts. -/
theorem erase_dups_append_left {α : Type} [BEq α] [LawfulBEq α] (first second : List α) :
    (first.eraseDups ++ second).eraseDups = (first ++ second).eraseDups := by
  induction second using List.reverseRecOn with
  | nil => rw [List.append_nil, List.append_nil, erase_dups_of_nodup (nodup_erase_dups first)]
  | append_singleton second last ih =>
      rw [← List.append_assoc, ← List.append_assoc, erase_dups_concat, erase_dups_concat, ih]
      simp

/-- The first item with each key, in order. -/
def firstOfEach {α β : Type} [BEq α] (items : List (α × β)) : List (α × β) :=
  items.eraseDupsBy fun later first => later.1 == first.1

/-- The first item decides, and later ones with its key are left out. -/
theorem first_of_each_cons {α β : Type} [BEq α] (first : α × β) (items : List (α × β)) :
    firstOfEach (first :: items) =
      first :: firstOfEach (items.filter fun item => !item.1 == first.1) := by
  simp [firstOfEach, List.eraseDupsBy_cons]

/-- The first item with a key is one of the items. -/
theorem mem_of_mem_first_of_each {α β : Type} [BEq α] {item : α × β} :
    ∀ {items : List (α × β)}, item ∈ firstOfEach items → item ∈ items
  | [], h => h
  | first :: items, h => by
      rw [first_of_each_cons, List.mem_cons] at h
      rcases h with rfl | h
      · exact List.mem_cons_self
      · exact List.mem_cons_of_mem _ (List.mem_filter.mp (mem_of_mem_first_of_each h)).1
termination_by items => items.length
decreasing_by exact Nat.lt_succ_of_le (List.length_filter_le ..)

variable {α β : Type} [BEq α] [LawfulBEq α]

/-- Where items are left out by their keys, a key that stays occurs as before. -/
theorem any_filter_key (keep : α → Bool) (key : α) (items : List (α × β)) :
    (items.filter fun item => keep item.1).any (·.1 == key) =
      (keep key && items.any (·.1 == key)) := by
  rw [List.any_filter]
  induction items with
  | nil => rw [List.any_nil, List.any_nil, Bool.and_false]
  | cons item items ih =>
      rw [List.any_cons, List.any_cons, ih, Bool.and_or_distrib_left]
      congr 1
      cases hkey : item.1 == key with
      | true => rw [eq_of_beq hkey]
      | false => rw [Bool.and_false, Bool.and_false]

/-- Leaving out the items of one key does not matter to another key. -/
theorem any_filter_other {key other : α} (h : (other == key) = false) (items : List (α × β)) :
    (items.filter fun item => !item.1 == other).any (·.1 == key) = items.any (·.1 == key) := by
  rw [any_filter_key (fun item => !item == other), BEq.comm, h, Bool.not_false, Bool.true_and]

/-- A key occurs among the first items exactly if it occurs at all. -/
theorem any_first_of_each (key : α) :
    ∀ items : List (α × β),
      (firstOfEach items).any (·.1 == key) = items.any (·.1 == key)
  | [] => rfl
  | first :: items => by
      rw [first_of_each_cons, List.any_cons, List.any_cons, any_first_of_each key]
      cases hkey : first.1 == key with
      | true => rfl
      | false => rw [any_filter_other hkey]
termination_by items => items.length
decreasing_by exact Nat.lt_succ_of_le (List.length_filter_le ..)

/-- An item at the end counts exactly if its key is new. -/
theorem first_of_each_concat (last : α × β) :
    ∀ items : List (α × β),
      firstOfEach (items ++ [last]) =
        if items.any (·.1 == last.1) then firstOfEach items else firstOfEach items ++ [last]
  | [] => by simp [firstOfEach, List.eraseDupsBy_cons]
  | first :: items => by
      rw [List.cons_append, first_of_each_cons, first_of_each_cons, List.filter_append,
        List.any_cons]
      cases hkey : first.1 == last.1 with
      | true => simp [BEq.comm (a := last.1), hkey]
      | false =>
          rw [List.filter_cons_of_pos (by rw [BEq.comm, hkey]; rfl), List.filter_nil,
            first_of_each_concat last, any_filter_other hkey]
          cases items.any (·.1 == last.1) <;> rfl
termination_by items => items.length
decreasing_by exact Nat.lt_succ_of_le (List.length_filter_le ..)

/-- A key is listed exactly if it is that of an item. -/
theorem contains_map_fst (key : α) (items : List (α × β)) :
    (items.map (·.1)).contains key = items.any (·.1 == key) := by
  rw [Bool.eq_iff_iff]
  simp

/-- The keys of the first items with each key are the first occurrences of keys. -/
theorem map_fst_first_of_each (items : List (α × β)) :
    (firstOfEach items).map (·.1) = (items.map (·.1)).eraseDups := by
  induction items using List.reverseRecOn with
  | nil => rfl
  | append_singleton items last ih =>
      rw [first_of_each_concat, List.map_append, List.map_singleton, erase_dups_concat, ← ih,
        contains_map_fst]
      split
      · rfl
      · rw [List.map_append, List.map_singleton]

end StatsBoard
