import Mathlib.Data.List.Pairwise
import StatsBoard.Proofs.Dashboard.Grid

/-!
# The grid as a tiling

The panels that are shown are parts of the area of one size, side by side and row below row, and no
two of them have a cell in common (`Grid.disjoint_rect`). Edges of the screen are words of 16 bits
and numbers of panels words of 64 bits; `Grid.wordRects?` calculates the places in such words and
gives up where a result does not fit. It never does: `Grid.panels_tile_area`.
-/

namespace StatsBoard

/-! ## Cells -/

namespace Area

/-- The cell in column `x` and row `y` is one of the rectangle's. -/
def Covers (area : Area) (x y : Nat) : Prop :=
  area.x ≤ x ∧ x < area.right ∧ area.y ≤ y ∧ y < area.bottom

/-- No cell is one of both rectangles. -/
def Disjoint (first second : Area) : Prop :=
  ∀ x y, first.Covers x y → ¬second.Covers x y

end Area

namespace Grid

variable {area : Area} {size : PanelSize} {count scroll index other : Nat}

/-- Of equal parts, one ends before another one begins. -/
theorem part_end_le_or {first second part : Nat} (h : first ≠ second) :
    first * part + part ≤ second * part ∨ second * part + part ≤ first * part := by
  rcases Nat.lt_or_gt_of_ne h with hlt | hgt
  · exact Or.inl (part_end_le hlt (Nat.le_refl _))
  · exact Or.inr (part_end_le hgt (Nat.le_refl _))

/-- Panels with different indices have no cell in common. -/
theorem disjoint_rect (h : index ≠ other) :
    (rect area size index).Disjoint (rect area size other) := by
  intro x y hfirst hsecond
  obtain ⟨hleft, hright, htop, hbottom⟩ := hfirst
  obtain ⟨hleft', hright', htop', hbottom'⟩ := hsecond
  simp only [rect, Area.right, Area.bottom] at hleft hright htop hbottom
  simp only [rect, Area.right, Area.bottom] at hleft' hright' htop' hbottom'
  by_cases hcolumn : index % columns area size = other % columns area size
  · have hrow : index / columns area size ≠ other / columns area size := by
      intro hrow
      apply h
      rw [← Nat.div_add_mod index (columns area size), hrow, hcolumn, Nat.div_add_mod]
    have := @part_end_le_or _ _ (size.rowsIn area) hrow
    omega
  · have := @part_end_le_or _ _ (size.columnsIn area) hcolumn
    omega

/-- There is no room for one part more than as many as fit. -/
theorem lt_succ_parts_mul {total part : Nat} (h : 0 < part) :
    total < (max 1 (total / part) + 1) * part := by
  have hquotient : total / part ≤ max 1 (total / part) := Nat.le_max_right 1 _
  calc
    total < total / part * part + part := Nat.lt_div_mul_add h
    _ = (total / part + 1) * part := (Nat.succ_mul _ _).symm
    _ ≤ (max 1 (total / part) + 1) * part := Nat.mul_le_mul_right _ (Nat.succ_le_succ hquotient)

/-! ## Calculations in words -/

/-- The result of a calculation in words with a number of values; nothing, if it does not fit. -/
def word? (values result : Nat) : Option Nat :=
  if result < values then some result else none

/-- The place of a panel by its index among all panels, `start` being that of the first one that is
shown: its row and its column are brought into 16 bits, with which its edges are calculated. -/
def wordRect? (area : Area) (size : PanelSize) (start index : Nat) : Option Area := do
  let row ← word? UInt16.size ((index - start) / columns area size)
  let column ← word? UInt16.size ((index - start) % columns area size)
  let across ← word? UInt16.size (column * size.columnsIn area)
  let x ← word? UInt16.size (area.x + across)
  let down ← word? UInt16.size (row * size.rowsIn area)
  let y ← word? UInt16.size (area.y + down)
  return ⟨x, y, size.columnsIn area, size.rowsIn area⟩

/-- The places of the panels that are shown, whose indices are calculated in 64 bits. -/
def wordRects? (area : Area) (size : PanelSize) (count scroll : Nat) : Option (List Area) := do
  let start ← word? UInt64.size (scroll * columns area size)
  let room ← word? UInt64.size (columns area size * visibleRows area size)
  let reach ← word? UInt64.size (start + room)
  (List.range' start (min count reach - start)).mapM (wordRect? area size start)

theorem word?_of_lt {values result : Nat} (h : result < values) :
    word? values result = some result :=
  if_pos h

/-- Inside an area whose edges fit into 16 bits, the place of a panel is calculated in them. -/
theorem word_rect?_eq (hwidth : 0 < area.width) (hheight : 0 < area.height)
    (hright : area.right < UInt16.size) (hbottom : area.bottom < UInt16.size) {start : Nat}
    (h : index < columns area size * visibleRows area size) :
    wordRect? area size start (start + index) = some (rect area size index) := by
  have hcolumn := part_end_le (Nat.mod_lt index columns_pos) (columns_mul_le size hwidth)
  have hrow := part_end_le (Nat.div_lt_of_lt_mul h) (visible_rows_mul_le size hheight)
  -- Parts have a size of at least one, so there are no more of them than cells.
  have hcolumn' := Nat.le_mul_of_pos_right (index % columns area size)
    (@PanelSize.columns_in_pos area size)
  have hrow' := Nat.le_mul_of_pos_right (index / columns area size)
    (@PanelSize.rows_in_pos area size)
  rw [Area.right] at hright
  rw [Area.bottom] at hbottom
  have hrows : index / columns area size < UInt16.size := by omega
  have hcolumns : index % columns area size < UInt16.size := by omega
  have hacross : index % columns area size * size.columnsIn area < UInt16.size := by omega
  have hx : area.x + index % columns area size * size.columnsIn area < UInt16.size := by omega
  have hdown : index / columns area size * size.rowsIn area < UInt16.size := by omega
  have hy : area.y + index / columns area size * size.rowsIn area < UInt16.size := by omega
  simp only [wordRect?, Nat.add_sub_cancel_left, word?_of_lt hrows, word?_of_lt hcolumns,
    word?_of_lt hacross, word?_of_lt hx, word?_of_lt hdown, word?_of_lt hy, Option.bind_eq_bind,
    Option.bind_some]
  rfl

/-- Where each item has a result, so has the list of them. -/
theorem map_m_eq_some {α β : Type} {f : α → Option β} {g : α → β} {items : List α}
    (h : ∀ item ∈ items, f item = some (g item)) : items.mapM f = some (items.map g) := by
  induction items with
  | nil => rfl
  | cons item items ih =>
      obtain ⟨hitem, hitems⟩ := List.forall_mem_cons.mp h
      rw [List.mapM_cons, hitem, ih hitems]
      rfl

/-- Inside an area whose edges fit into 16 bits, the places of the panels that are shown are
calculated in words if the indices of panels fit into theirs. -/
theorem word_rects?_eq (hwidth : 0 < area.width) (hheight : 0 < area.height)
    (hright : area.right < UInt16.size) (hbottom : area.bottom < UInt16.size)
    (hreach : scroll * columns area size + columns area size * visibleRows area size <
      UInt64.size) :
    wordRects? area size count scroll = some (rects area size count scroll) := by
  have hstart : scroll * columns area size < UInt64.size := by omega
  have hroom : columns area size * visibleRows area size < UInt64.size := by omega
  have hcount : min count (scroll * columns area size +
      columns area size * visibleRows area size) - scroll * columns area size =
        shownCount area size count scroll := by
    rw [shownCount, firstIndex]
    omega
  simp only [wordRects?, word?_of_lt hstart, word?_of_lt hroom, word?_of_lt hreach,
    Option.bind_eq_bind, Option.bind_some, hcount]
  rw [List.range'_eq_map_range, List.mapM_map, rects]
  refine map_m_eq_some fun index hindex => ?_
  have hshown : shownCount area size count scroll ≤
      columns area size * visibleRows area size := Nat.min_le_right _ _
  exact word_rect?_eq hwidth hheight hright hbottom
    (Nat.lt_of_lt_of_le (List.mem_range.mp hindex) hshown)

/-- In an area of cells whose edges fit into 16 bits, whatever the size of panels, their number and
the scroll position, as long as the indices of panels fit into 64 bits: the places of the panels are
calculated without a result that does not fit. There are as many as panels are left after those
that are scrolled away and as there is room for. All have one size, which is not zero; they follow
each other row by row, lie inside the area and have no cell in common; and there is no room for one
more column or row of that size. -/
theorem panels_tile_area (count : Nat) (hwidth : 1 ≤ area.width) (hheight : 1 ≤ area.height)
    (hright : area.right ≤ 65535) (hbottom : area.bottom ≤ 65535)
    (hreach : scroll * columns area size + columns area size * visibleRows area size <
      UInt64.size) :
    wordRects? area size count scroll = some (rects area size count scroll) ∧
    (rects area size count scroll).length =
      min (count - scroll * columns area size) (columns area size * visibleRows area size) ∧
    0 < size.columnsIn area ∧ 0 < size.rowsIn area ∧
    (∀ (k : Nat) (place : Area), (rects area size count scroll)[k]? = some place →
      place = { x := area.x + k % columns area size * size.columnsIn area
                y := area.y + k / columns area size * size.rowsIn area
                width := size.columnsIn area
                height := size.rowsIn area } ∧
      place.Within area) ∧
    (rects area size count scroll).Pairwise Area.Disjoint ∧
    area.width < (columns area size + 1) * size.columnsIn area ∧
    area.height < (visibleRows area size + 1) * size.rowsIn area := by
  refine ⟨?words, length_rects, PanelSize.columns_in_pos, PanelSize.rows_in_pos, ?places,
    ?disjoint, lt_succ_parts_mul PanelSize.columns_in_pos, lt_succ_parts_mul PanelSize.rows_in_pos⟩
  case words =>
    exact word_rects?_eq hwidth hheight (Nat.lt_succ_of_le hright) (Nat.lt_succ_of_le hbottom)
      hreach
  case places =>
    intro k place hplace
    rw [rects, List.getElem?_map, Option.map_eq_some_iff] at hplace
    obtain ⟨index, hindex, rfl⟩ := hplace
    obtain ⟨hk, rfl⟩ := List.getElem?_eq_some_iff.mp hindex
    rw [List.length_range] at hk
    rw [List.getElem_range]
    refine ⟨rfl, rect_within hwidth hheight (Nat.lt_of_lt_of_le hk (Nat.min_le_right _ _))⟩
  case disjoint =>
    exact List.pairwise_lt_range.map _ fun _ _ hlt => disjoint_rect (Nat.ne_of_lt hlt)

/-- At the last column and row that 16 bits can name: three columns and two rows of panels, of which
five are shown once one row of the eight panels is scrolled away. -/
theorem panels_tile_area_last_column :
    wordRects? ⟨65504, 65527, 31, 8⟩ ⟨10, 4⟩ 8 1 =
      some [⟨65504, 65527, 10, 4⟩, ⟨65514, 65527, 10, 4⟩, ⟨65524, 65527, 10, 4⟩,
        ⟨65504, 65531, 10, 4⟩, ⟨65514, 65531, 10, 4⟩] ∧
    (rects ⟨65504, 65527, 31, 8⟩ ⟨10, 4⟩ 8 1).Pairwise Area.Disjoint := by
  obtain ⟨hwords, -, -, -, -, hdisjoint, -⟩ :=
    @panels_tile_area ⟨65504, 65527, 31, 8⟩ ⟨10, 4⟩ 1 8 (by decide) (by decide) (by decide)
      (by decide) (by decide)
  rw [hwords]
  exact ⟨by decide, hdisjoint⟩

end Grid

end StatsBoard
