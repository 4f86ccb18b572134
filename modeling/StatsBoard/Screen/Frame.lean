import StatsBoard.Screen.Basic
import StatsBoard.Text.Lines

/-!
# Frames around parts of the screen

A box drawn along the sides of a rectangle, or a rule along its bottom, with a title in the first
row.
-/

namespace StatsBoard.Screen

/-- The cells of a column of a rectangle. -/
def column (area : Area) (x : Nat) : List (Nat × Nat) :=
  (List.range area.height).map fun i => (x, area.y + i)

/-- The cells of a row of a rectangle. -/
def row (area : Area) (y : Nat) : List (Nat × Nat) :=
  (List.range area.width).map fun i => (area.x + i, y)

/-- Draw a rule along the bottom of a rectangle. -/
def putRule (screen : Screen) (area : Area) (style : Style) : Screen :=
  if area.isEmpty then screen else screen.putAll "─" style (row area (area.bottom - 1))

/-- Draw a box along the sides of a rectangle. -/
def putBox (screen : Screen) (area : Area) (style : Style) : Screen :=
  if area.isEmpty then screen
  else
    let right := area.right - 1
    let bottom := area.bottom - 1
    let sides := (((screen.putAll "│" style (column area area.x)).putAll "─" style
      (row area area.y)).putAll "│" style (column area right)).putAll "─" style (row area bottom)
    (((sides.put "┘" style right bottom).put "┐" style right area.y).put "└" style area.x
      bottom).put "┌" style area.x area.y

/-- Write a title into the first row of a rectangle. -/
def putTitle (screen : Screen) (area : Area) (title : String) : Screen :=
  if area.isEmpty then screen
  else
    let texts := (Text.lines title.toList).filter (Text.width · != 0)
    let columns := texts.foldl (fun columns text => columns + Text.width text) 0
    putTexts { } texts { area with width := min columns area.width, height := 1 } screen

end StatsBoard.Screen
