import StatsBoard.Binary64.Basic
import StatsBoard.Line
import StatsBoard.Screen.Basic
import StatsBoard.Series

/-!
# Bars of samples

Samples drawn side by side as bars of eighths of cells, growing from the bottom of a rectangle.
-/

namespace StatsBoard

namespace Sparkline

/-- The height that a sample stands for: rounded, not below zero, within 64 bits. -/
def amount (sample : Binary64) : Nat :=
  ((sample.max .zero).saturate 0 (UInt64.size - 1) Binary64.nearestInteger).toNat

/-- The heights of the last samples. -/
def amounts (count : Nat) (samples : List Binary64) : List Nat :=
  (lastItems count samples).map amount

/-- The height in eighths of cells at which an amount is drawn when `top` fills the rectangle.
Products are kept to 64 bits. -/
def eighths (height top amount : Nat) : Nat :=
  if top = 0 then 0 else amount * height % UInt64.size * 8 % UInt64.size / top

/-- The amount that fills a rectangle unless one is given: the largest of them. -/
def largest (amounts : List Nat) : Nat :=
  if amounts = [] then 1 else amounts.foldl max 0

/-- The symbol of a bar in the row that has `below` rows under it. -/
def symbol (below eighths : Nat) : String :=
  (Line.levels.getD (min 8 (eighths - 8 * below)) ' ').toString

/-- Draw one bar. -/
def putBar (area : Area) (style : Style) (screen : Screen) (column eighths : Nat) : Screen :=
  (List.range area.height).foldl (fun screen below =>
    screen.put (symbol below eighths) style (area.x + column) (area.bottom - 1 - below)) screen

/-- Draw amounts side by side, as many as there are columns. -/
def putBars (screen : Screen) (area : Area) (style : Style) (top : Nat) (amounts : List Nat) :
    Screen :=
  (amounts.take area.width).zipIdx.foldl (fun screen (amount, column) =>
    putBar area style screen column (eighths area.height top amount)) screen

end Sparkline

end StatsBoard
