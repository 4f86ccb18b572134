import StatsBoard.Dashboard.Grid

/-!
# The geometry of the grid

However many panels there are side by side, a row of panels is one of the grid's if its first panel
is one of the panels (`Grid.lt_total_rows_iff`); all that is said about scrolling follows from this.
The panels that are shown lie within the part of the screen that is for them (`Grid.rect_within`).
-/

namespace StatsBoard

namespace Area

/-- A rectangle lies inside another one. -/
structure Within (inner outer : Area) : Prop where
  left : outer.x ≤ inner.x
  top : outer.y ≤ inner.y
  right : inner.right ≤ outer.right
  bottom : inner.bottom ≤ outer.bottom

theorem Within.trans {a b c : Area} (h : a.Within b) (hbc : b.Within c) : a.Within c where
  left := Nat.le_trans hbc.left h.left
  top := Nat.le_trans hbc.top h.top
  right := Nat.le_trans h.right hbc.right
  bottom := Nat.le_trans h.bottom hbc.bottom

theorem is_empty_eq_false_iff {area : Area} :
    area.isEmpty = false ↔ 0 < area.width ∧ 0 < area.height := by
  simp [isEmpty, Nat.pos_iff_ne_zero]

end Area

variable {area other : Area} {size : PanelSize} {count more scroll index row : Nat}

namespace PanelSize

theorem columns_in_pos : 0 < size.columnsIn area :=
  Nat.le_max_left 1 _

theorem rows_in_pos : 0 < size.rowsIn area :=
  Nat.le_max_left 1 _

theorem columns_in_le (h : 0 < area.width) : size.columnsIn area ≤ area.width := by
  unfold columnsIn
  omega

theorem rows_in_le (h : 0 < area.height) : size.rowsIn area ≤ area.height := by
  unfold rowsIn
  omega

end PanelSize

namespace Grid

/-! ## Columns and rows -/

theorem columns_pos : 0 < columns area size :=
  Nat.le_max_left 1 _

theorem visible_rows_pos : 0 < visibleRows area size :=
  Nat.le_max_left 1 _

/-- The columns are as wide as the part of the screen, or narrower. -/
theorem columns_mul_le (size : PanelSize) (h : 0 < area.width) :
    columns area size * size.columnsIn area ≤ area.width := by
  have hone : 1 ≤ area.width / size.columnsIn area :=
    Nat.div_pos (PanelSize.columns_in_le h) PanelSize.columns_in_pos
  rw [columns, Nat.max_eq_right hone]
  exact Nat.div_mul_le_self _ _

/-- The rows that are shown are as high as the part of the screen, or less high. -/
theorem visible_rows_mul_le (size : PanelSize) (h : 0 < area.height) :
    visibleRows area size * size.rowsIn area ≤ area.height := by
  have hone : 1 ≤ area.height / size.rowsIn area :=
    Nat.div_pos (PanelSize.rows_in_le h) PanelSize.rows_in_pos
  rw [visibleRows, Nat.max_eq_right hone]
  exact Nat.div_mul_le_self _ _

/-- A row is one of the grid's if its first panel is one of the panels. -/
theorem lt_total_rows_iff : row < totalRows area size count ↔ row * columns area size < count := by
  have hpos : 0 < columns area size := columns_pos
  rw [totalRows, Nat.lt_iff_add_one_le, Nat.le_div_iff_mul_le hpos, Nat.succ_mul]
  omega

/-- A row that may be scrolled to begins with one of the panels. -/
theorem first_index_lt (hcount : 0 < count) (h : scroll ≤ maxScroll area size count) :
    firstIndex area size scroll < count := by
  have hvisible : 0 < visibleRows area size := visible_rows_pos
  have hrows : 0 < totalRows area size count := lt_total_rows_iff.mpr (by omega)
  refine lt_total_rows_iff.mp ?_
  rw [maxScroll] at h
  omega

/-- Without panels nothing can be scrolled away. -/
theorem max_scroll_of_no_panels : maxScroll area size 0 = 0 := by
  have hrows : ¬0 < totalRows area size 0 := fun h => Nat.not_lt_zero _ (lt_total_rows_iff.mp h)
  rw [maxScroll]
  omega

/-- One of several equal parts ends where all of them end, or before. -/
theorem part_end_le {parts part total : Nat} (hindex : index < parts)
    (h : parts * part ≤ total) : index * part + part ≤ total := by
  calc
    index * part + part = (index + 1) * part := (Nat.succ_mul index part).symm
    _ ≤ parts * part := Nat.mul_le_mul_right part hindex
    _ ≤ total := h

/-- The panels that are shown lie within the part of the screen that is for them. -/
theorem rect_within (hwidth : 0 < area.width) (hheight : 0 < area.height)
    (h : index < columns area size * visibleRows area size) :
    (rect area size index).Within area := by
  have hcolumn := part_end_le (Nat.mod_lt index columns_pos) (columns_mul_le size hwidth)
  have hrow := part_end_le (Nat.div_lt_of_lt_mul h) (visible_rows_mul_le size hheight)
  constructor
  · exact Nat.le_add_right _ _
  · exact Nat.le_add_right _ _
  · simp only [rect, Area.right]
    omega
  · simp only [rect, Area.bottom]
    omega

/-- The places of panels have cells. -/
theorem rect_not_empty : (rect area size index).isEmpty = false :=
  Area.is_empty_eq_false_iff.mpr ⟨PanelSize.columns_in_pos, PanelSize.rows_in_pos⟩

theorem length_rects :
    (rects area size count scroll).length = shownCount area size count scroll := by
  rw [rects, List.length_map, List.length_range]

end Grid

end StatsBoard
