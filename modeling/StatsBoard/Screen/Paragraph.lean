import StatsBoard.Screen.Basic

/-!
# Lines of text in a rectangle

A line is cut at the width of its rectangle and stands at the left or at the right of it.
-/

namespace StatsBoard.Screen

/-- The clusters of a line that fit into the columns that are left, up to the first that does not.
One that is wider than the whole rectangle is passed over. -/
def fitting (width : Nat) : Nat → List (List Char) → List (List Char)
  | _, [] => []
  | left, cluster :: clusters =>
    let columns := Text.width cluster
    if width < columns then fitting width left clusters
    else if left < columns then []
    else cluster :: fitting width (left - columns) clusters

/-- Show clusters in a row from a column on. Those without width are left out. -/
def putRun (style : Style) (y : Nat) : Nat → List (List Char) → Screen → Screen
  | _, [], screen => screen
  | x, cluster :: clusters, screen =>
    let columns := Text.width cluster
    if columns = 0 then putRun style y x clusters screen
    else putRun style y (x + columns) clusters (screen.put (String.ofList cluster) style x y)

/-- Show a line at the right of the first row of a rectangle. -/
def putRight (screen : Screen) (area : Area) (style : Style) (text : String) : Screen :=
  if area.isEmpty then screen
  else
    let clusters := fitting area.width area.width (shownClusters text.toList)
    let columns := clusters.foldl (fun columns cluster => columns + Text.width cluster) 0
    putRun style area.y (area.x + (area.width - columns)) clusters screen

end StatsBoard.Screen
