import StatsBoard.Screen.Color
import StatsBoard.Text.Cluster
import StatsBoard.Text.Width

/-!
# The character screen

A screen is rows of cells. A cell shows a symbol, usually one character, in a color; a symbol two
columns wide lies over the cell to its right.
-/

namespace StatsBoard

/-- A rectangle of cells: its left and top edges, its width and its height. -/
structure Area where
  x : Nat
  y : Nat
  width : Nat
  height : Nat
deriving DecidableEq, Repr

namespace Area

/-- The column after the last one. -/
def right (area : Area) : Nat := area.x + area.width

/-- The row after the last one. -/
def bottom (area : Area) : Nat := area.y + area.height

/-- The rectangle has no cells. -/
def isEmpty (area : Area) : Bool :=
  area.width == 0 || area.height == 0

/-- The rectangle without columns at its left. -/
def indent (area : Area) (columns : Nat) : Area :=
  { area with x := area.x + columns, width := area.width - columns }

/-- The rectangle without the cells at its four sides. -/
def inner (area : Area) : Area where
  x := min (area.x + 1) area.right
  y := min (area.y + 1) area.bottom
  width := area.width - 1 - 1
  height := area.height - 1 - 1

end Area

/-- A cell of the screen. -/
structure Cell where
  symbol : String := " "
  foreground : Color := .reset
  bold : Bool := false
deriving DecidableEq, Repr

/-- How text is shown. -/
structure Style where
  /-- The color; without one, cells keep theirs. -/
  foreground : Option Color := none
  bold : Bool := false
deriving DecidableEq, Repr

namespace Cell

/-- The cell in a style. -/
def styled (cell : Cell) (style : Style) : Cell :=
  { cell with
    foreground := style.foreground.getD cell.foreground
    bold := cell.bold || style.bold }

/-- The cell showing a symbol in a style. -/
def showing (cell : Cell) (symbol : String) (style : Style) : Cell :=
  { cell.styled style with symbol := symbol }

/-- The cell with more characters in its symbol. -/
def append (cell : Cell) (symbol : String) (style : Style) : Cell :=
  { cell.styled style with symbol := cell.symbol ++ symbol }

end Cell

/-- Rows of cells. -/
structure Screen where
  rows : List (List Cell)
deriving DecidableEq, Repr

namespace Screen

/-- An empty screen. -/
def blank (width height : Nat) : Screen :=
  ⟨List.replicate height (List.replicate width { })⟩

/-- Change one cell. -/
def modify (screen : Screen) (x y : Nat) (change : Cell → Cell) : Screen :=
  ⟨screen.rows.modify y fun row => row.modify x change⟩

/-- Show a symbol in one cell. -/
def put (screen : Screen) (symbol : String) (style : Style) (x y : Nat) : Screen :=
  screen.modify x y (·.showing symbol style)

/-- Show a symbol in each of some cells. -/
def putAll (screen : Screen) (symbol : String) (style : Style) (cells : List (Nat × Nat)) :
    Screen :=
  cells.foldl (fun screen (x, y) => screen.put symbol style x y) screen

/-- Empty the cells that a wide symbol hides. -/
def hide (screen : Screen) (x y columns : Nat) : Screen :=
  (List.range columns).foldl (fun screen i => screen.modify (x + i) y fun _ => { }) screen

/-- Show clusters of a text in a row from column `x` on, as far as they fit left of `right`. `left`
is the column of the first of them, and `first` says that it is the next one. A cluster without
width goes to the symbol before it. -/
def putClusters (left right y : Nat) (style : Style) :
    Nat → Bool → List (List Char) → Screen → Screen
  | _, _, [], screen => screen
  | x, first, cluster :: clusters, screen =>
    let columns := Text.width cluster
    let symbol := String.ofList cluster
    if right < x + columns then screen
    else
      let shown :=
        if first then screen.put symbol style x y
        else if x = left then screen.modify x y (·.append symbol style)
        else if columns = 0 then screen.modify (x - 1) y (·.append symbol style)
        else screen.put symbol style x y
      putClusters left right y style (x + columns) false clusters
        (shown.hide (x + 1) y (columns - 1))

/-- The clusters of a text that are shown; line ends are not. -/
def shownClusters (text : List Char) : List (List Char) :=
  (Text.clusters text).filter (· != ['\n'])

/-- Show a text in the first row of a rectangle. -/
def putText (screen : Screen) (area : Area) (style : Style) (text : List Char) : Screen :=
  if area.isEmpty then screen
  else putClusters area.x area.right area.y style area.x true (shownClusters text) screen

/-- Show texts one after the other in the first row of a rectangle. -/
def putTexts (style : Style) : List (List Char) → Area → Screen → Screen
  | [], _, screen => screen
  | text :: texts, area, screen =>
    putTexts style texts (area.indent (Text.width text)) (screen.putText area style text)

end Screen

end StatsBoard
