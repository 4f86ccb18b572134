import StatsBoard.Screen.Basic

/-!
# The grid of panels

Panels of one size fill a part of the screen row by row, and as many rows are shown as fit. Whole
rows are scrolled away.
-/

namespace StatsBoard

/-- The size of panels. -/
structure PanelSize where
  width : Nat := 48
  height : Nat := 7
deriving DecidableEq, Repr

namespace PanelSize

/-- The width of a panel in a part of the screen: never nothing, and no more than there is. -/
def columnsIn (size : PanelSize) (area : Area) : Nat :=
  max 1 (min size.width (max area.width 1))

/-- The height of a panel in a part of the screen. -/
def rowsIn (size : PanelSize) (area : Area) : Nat :=
  max 1 (min size.height (max area.height 1))

end PanelSize

namespace Grid

/-- The number of panels side by side. -/
def columns (area : Area) (size : PanelSize) : Nat :=
  max 1 (area.width / size.columnsIn area)

/-- The number of rows of panels that are shown. -/
def visibleRows (area : Area) (size : PanelSize) : Nat :=
  max 1 (area.height / size.rowsIn area)

/-- The number of rows of panels that there are. -/
def totalRows (area : Area) (size : PanelSize) (count : Nat) : Nat :=
  (count + columns area size - 1) / columns area size

/-- The number of rows that can be scrolled away. -/
def maxScroll (area : Area) (size : PanelSize) (count : Nat) : Nat :=
  totalRows area size count - visibleRows area size

/-- The number of panels that are scrolled away. -/
def firstIndex (area : Area) (size : PanelSize) (scroll : Nat) : Nat :=
  scroll * columns area size

/-- The place of a panel, counted from the first one that is shown. -/
def rect (area : Area) (size : PanelSize) (index : Nat) : Area where
  x := area.x + index % columns area size * size.columnsIn area
  y := area.y + index / columns area size * size.rowsIn area
  width := size.columnsIn area
  height := size.rowsIn area

/-- The number of panels that are shown. -/
def shownCount (area : Area) (size : PanelSize) (count scroll : Nat) : Nat :=
  min (count - firstIndex area size scroll) (columns area size * visibleRows area size)

/-- The places of the panels that are shown. -/
def rects (area : Area) (size : PanelSize) (count scroll : Nat) : List Area :=
  (List.range (shownCount area size count scroll)).map (rect area size)

end Grid

end StatsBoard
