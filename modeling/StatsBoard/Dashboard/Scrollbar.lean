import StatsBoard.Screen.Basic

/-!
# The scrollbar

A column with an arrow at either end and a track between them. The thumb covers the share of the
track that the visible rows are of all rows, at the place of the scrolled ones.
-/

namespace StatsBoard

/-- A scrollbar: how long it is, how many rows there are, how many are visible, and how many are
scrolled away. -/
structure Scrollbar where
  height : Nat
  total : Nat
  visible : Nat
  scroll : Nat
deriving DecidableEq, Repr

namespace Scrollbar

/-- The length of the track. -/
def track (bar : Scrollbar) : Nat := bar.height - 2

/-- The length of the thumb. -/
def thumbLength (bar : Scrollbar) : Nat :=
  max 1 (min (bar.track * bar.visible / max bar.total 1) bar.track)

/-- The greatest number of rows that can be scrolled away, at least one. -/
def maxScroll (bar : Scrollbar) : Nat :=
  max (bar.total - bar.visible) 1

/-- The part of the track above the thumb. -/
def thumbTop (bar : Scrollbar) : Nat :=
  (bar.track - bar.thumbLength) * min bar.scroll bar.maxScroll / bar.maxScroll

/-- The symbol at a place of the track. -/
def trackSymbol (bar : Scrollbar) (place : Nat) : String :=
  if bar.thumbTop ≤ place ∧ place < bar.thumbTop + bar.thumbLength then "█" else "│"

/-- The symbols from top to bottom; there is no scrollbar below a height of three. -/
def symbols (bar : Scrollbar) : List String :=
  if bar.height < 3 then []
  else "▲" :: (List.range bar.track).map bar.trackSymbol ++ ["▼"]

/-- The color of a scrollbar. -/
def color : Color := .rgb 170 170 180

/-- Draw a scrollbar into the first column of a part of the screen. The part has that column: its
width is not looked at, and a dashboard's scrollbar has a width of one. -/
def draw (bar : Scrollbar) (area : Area) (screen : Screen) : Screen :=
  bar.symbols.zipIdx.foldl (fun screen (symbol, i) =>
    screen.put symbol { foreground := some color } area.x (area.y + i)) screen

end Scrollbar

end StatsBoard
