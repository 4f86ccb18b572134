import StatsBoard.Dashboard.Basic
import StatsBoard.Proofs.Dashboard.Grid

/-!
# What is shown of a dashboard

The panels that are shown are those of consecutive entities of the board, from the first one that is
not scrolled away, each in its place of the grid (`Dashboard.get_panels`). A scrollbar has the last
column of the body to itself (`Dashboard.scroll_area_is_column`). Keys bound the scroll
position by the grid that is drawn, and new panels do not lower that bound
(`Dashboard.max_scroll_apply`).
-/

namespace StatsBoard

/-- A board does not shrink. -/
theorem Board.length_le_apply (board : Board) (frame : EntityFrame) :
    board.frames.length ≤ (board.apply frame).frames.length := by
  rw [apply]
  split
  · exact Nat.le_of_eq (List.length_map _).symm
  · rw [List.length_append]
    exact Nat.le_add_right _ _

namespace Dashboard

variable {dashboard : Dashboard} {body bar : Area} {index scroll : Nat}

/-- The number of panels side by side in a body. -/
def columns (dashboard : Dashboard) (body : Area) : Nat :=
  Grid.columns (dashboard.panelArea body) dashboard.size

/-- The places in a body where panels are shown. -/
def places (dashboard : Dashboard) (body : Area) : List Area :=
  Grid.rects (dashboard.panelArea body) dashboard.size dashboard.count dashboard.scroll

theorem height_panel_area : (dashboard.panelArea body).height = body.height := by
  rw [panelArea]
  split <;> rfl

theorem panel_area_within : (dashboard.panelArea body).Within body := by
  rw [panelArea]
  split
  · exact ⟨Nat.le_refl _, Nat.le_refl _, Nat.add_le_add_left (Nat.sub_le _ _) _, Nat.le_refl _⟩
  · exact ⟨Nat.le_refl _, Nat.le_refl _, Nat.le_refl _, Nat.le_refl _⟩

/-- There is a scrollbar only where it leaves columns for panels. -/
theorem one_lt_width_of_scrolls (h : dashboard.scrolls body) : 1 < body.width := by
  simpa using (Bool.and_eq_true_iff.mp h).2

theorem width_panel_area_pos (h : 0 < body.width) : 0 < (dashboard.panelArea body).width := by
  rw [panelArea]
  split
  next hscrolls => exact Nat.sub_pos_of_lt (one_lt_width_of_scrolls hscrolls)
  next => exact h

theorem scroll_area_eq_some_iff : dashboard.scrollArea? body = some bar ↔
    dashboard.scrolls body ∧ body.indent (body.width - 1) = bar := by
  rw [scrollArea?, Option.ite_none_right_eq_some, Option.some.injEq]

/-- The scrollbar has the last column of the body, next to the part for panels. -/
theorem scroll_area_is_column (h : dashboard.scrollArea? body = some bar) :
    bar.width = 1 ∧ bar.height = body.height ∧ bar.x = (dashboard.panelArea body).right ∧
      bar.Within body := by
  obtain ⟨hscrolls, rfl⟩ := scroll_area_eq_some_iff.mp h
  have hroom := one_lt_width_of_scrolls hscrolls
  have hpanels : (dashboard.panelArea body).right = body.x + (body.width - 1) := by
    rw [panelArea, if_pos hscrolls, Area.right]
  refine ⟨Nat.sub_sub_self (Nat.le_of_lt hroom), rfl, hpanels.symm, ?_⟩
  constructor
  · exact Nat.le_add_right _ _
  · exact Nat.le_refl _
  · simp only [Area.indent, Area.right]
    omega
  · exact Nat.le_refl _

/-- There are places for as many panels as are not scrolled away and as there is room for. -/
theorem length_places : (dashboard.places body).length =
    min (dashboard.count - dashboard.scroll * dashboard.columns body)
      (dashboard.columns body * dashboard.visibleRows body) :=
  Grid.length_rects

/-- As many panels are shown as there are places for them. -/
theorem length_panels : (dashboard.panels body).length = (dashboard.places body).length := by
  have hplaces : (dashboard.places body).length ≤
      dashboard.count - dashboard.scroll * dashboard.columns body := by
    rw [length_places]
    exact Nat.min_le_left _ _
  rw [panels, List.length_zip, List.length_drop]
  exact Nat.min_eq_right hplaces

/-- No panel is shown if all of them are scrolled away, and only then. -/
theorem panels_eq_nil_iff : dashboard.panels body = [] ↔
    dashboard.count ≤ dashboard.scroll * dashboard.columns body := by
  have hroom : 0 < dashboard.columns body * dashboard.visibleRows body :=
    Nat.mul_pos Grid.columns_pos Grid.visible_rows_pos
  rw [← List.length_eq_zero_iff, length_panels, length_places]
  omega

/-- What is shown lies inside the part for panels, and has cells. -/
theorem place_in_panel_area (hwidth : 0 < body.width) (hheight : 0 < body.height)
    {panel : EntityFrame × Area} (h : panel ∈ dashboard.panels body) :
    panel.2.Within (dashboard.panelArea body) ∧ panel.2.isEmpty = false := by
  have hplace : panel.2 ∈ dashboard.places body := (List.of_mem_zip h).2
  obtain ⟨k, hk, hplace⟩ := List.mem_map.mp hplace
  have hk : k < Grid.columns (dashboard.panelArea body) dashboard.size
      * Grid.visibleRows (dashboard.panelArea body) dashboard.size :=
    Nat.lt_of_lt_of_le (List.mem_range.mp hk) (Nat.min_le_right _ _)
  have hwithin := Grid.rect_within (width_panel_area_pos hwidth)
    (height_panel_area.symm ▸ hheight) hk
  rw [← hplace]
  exact ⟨hwithin, Grid.rect_not_empty⟩

/-- What is shown lies inside the body, and has cells. -/
theorem place_of_mem_panels (hwidth : 0 < body.width) (hheight : 0 < body.height)
    {panel : EntityFrame × Area} (h : panel ∈ dashboard.panels body) :
    panel.2.Within body ∧ panel.2.isEmpty = false := by
  obtain ⟨hwithin, hcells⟩ := place_in_panel_area hwidth hheight h
  exact ⟨hwithin.trans panel_area_within, hcells⟩

/-- No panel reaches the column of the scrollbar. -/
theorem right_le_scroll_area (hheight : 0 < body.height)
    (hbar : dashboard.scrollArea? body = some bar) {panel : EntityFrame × Area}
    (h : panel ∈ dashboard.panels body) : panel.2.right ≤ bar.x := by
  obtain ⟨-, -, hcolumn, -⟩ := scroll_area_is_column hbar
  have hroom := one_lt_width_of_scrolls (scroll_area_eq_some_iff.mp hbar).1
  rw [hcolumn]
  exact (place_in_panel_area (Nat.lt_of_succ_lt hroom) hheight h).1.right

/-- A position that may be scrolled to leaves a panel in sight. -/
theorem scroll_mul_columns_lt (hcount : 0 < dashboard.count)
    (h : scroll ≤ dashboard.maxScroll body) : scroll * dashboard.columns body < dashboard.count :=
  Grid.first_index_lt hcount h

/-- Without panels there is no position but the first. -/
theorem scroll_of_no_panels (hcount : dashboard.count = 0)
    (h : scroll ≤ dashboard.maxScroll body) : scroll = 0 := by
  rw [maxScroll, hcount, Grid.max_scroll_of_no_panels] at h
  exact Nat.le_zero.mp h

end Dashboard

end StatsBoard
