import Mathlib.Data.List.Basic
import StatsBoard.Redraw

/-!
# What waits to be drawn

Which entities wait after marks and flushes, and which records a flush draws.
-/

namespace StatsBoard.Redraw

variable {redraw : Redraw} {registry : Registry} {palette : Palette}
  {wanted : EntityRecord → Bool} {id other : String} {record : EntityRecord}

/-- After a mark the marked entity waits, and so do those that waited before. -/
theorem mem_pending_mark :
    other ∈ (redraw.mark id).pending ↔ other ∈ redraw.pending ∨ other = id := by
  by_cases h : id ∈ redraw.pending
  · have hkept : redraw.mark id = redraw := by simp [mark, h]
    rw [hkept, or_iff_left_of_imp]
    rintro rfl
    exact h
  · simp [mark, h]

/-- After marks the marked entities wait, and so do those that waited before. -/
theorem mem_pending_foldl_mark (ids : List String) :
    other ∈ (ids.foldl mark redraw).pending ↔ other ∈ redraw.pending ∨ other ∈ ids := by
  induction ids generalizing redraw with
  | nil => simp
  | cons id ids ih => rw [List.foldl_cons, ih, mem_pending_mark, List.mem_cons, or_assoc]

/-- The records that a flush draws wait and are asked for. -/
theorem mem_due : record ∈ redraw.due registry wanted ↔
    record ∈ registry.records ∧ record.id ∈ redraw.pending ∧ wanted record := by
  simp [due]

/-- After a flush those entities wait that waited before and were not drawn. -/
theorem mem_pending_flush_where : id ∈ (redraw.flushWhere registry palette wanted).redraw.pending ↔
    id ∈ redraw.pending ∧ ∀ record ∈ redraw.due registry wanted, record.id ≠ id := by
  simp [flushWhere]

end StatsBoard.Redraw
