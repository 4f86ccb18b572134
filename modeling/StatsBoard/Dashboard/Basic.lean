import StatsBoard.Dashboard.Board
import StatsBoard.Dashboard.Grid
import StatsBoard.Dashboard.Panel
import StatsBoard.Dashboard.Scrollbar

/-!
# The dashboard

The screen shows a title and below it the board as a grid of panels, with a scrollbar where the
grid does not fit. Keys scroll the grid and quit. Keys and drawing use the same division of the
screen, so what a key counts as visible is what is drawn.
-/

namespace StatsBoard

/-- A key. -/
inductive Key where
  | char (c : Char)
  | escape
  | up
  | down
  | pageUp
  | pageDown
  | home
  | last
  | other
deriving DecidableEq, Repr

/-- A dashboard. -/
structure Dashboard where
  endpoint : String
  mode : String
  size : PanelSize := { }
  board : Board := { }
  scroll : Nat := 0
  quit : Bool := false
deriving DecidableEq, Repr

namespace Dashboard

/-- The number of panels. -/
def count (dashboard : Dashboard) : Nat :=
  dashboard.board.frames.length

/-- Take in a frame. -/
def apply (dashboard : Dashboard) (frame : EntityFrame) : Dashboard :=
  { dashboard with board := dashboard.board.apply frame }

/-- The part of the screen below the title. -/
def body (area : Area) : Area :=
  { area with y := area.y + min 1 area.height, height := area.height - 1 }

/-- The grid does not fit into a body, and there is room for a scrollbar. -/
def scrolls (dashboard : Dashboard) (body : Area) : Bool :=
  Grid.visibleRows body dashboard.size < Grid.totalRows body dashboard.size dashboard.count
    && 1 < body.width

/-- The part of a body for panels. -/
def panelArea (dashboard : Dashboard) (body : Area) : Area :=
  if dashboard.scrolls body then { body with width := body.width - 1 } else body

/-- The part of a body for the scrollbar, if there is one. -/
def scrollArea? (dashboard : Dashboard) (body : Area) : Option Area :=
  if dashboard.scrolls body then some (body.indent (body.width - 1)) else none

/-- The number of rows that can be scrolled away in a body. -/
def maxScroll (dashboard : Dashboard) (body : Area) : Nat :=
  Grid.maxScroll (dashboard.panelArea body) dashboard.size dashboard.count

/-- The number of rows that are shown in a body. -/
def visibleRows (dashboard : Dashboard) (body : Area) : Nat :=
  Grid.visibleRows (dashboard.panelArea body) dashboard.size

/-- The scroll position after a key, before it is limited. -/
def scrolled (dashboard : Dashboard) (body : Area) : Key → Nat
  | .up => dashboard.scroll - 1
  | .down => dashboard.scroll + 1
  | .pageUp => dashboard.scroll - dashboard.visibleRows body
  | .pageDown => dashboard.scroll + dashboard.visibleRows body
  | .home => 0
  | .last => dashboard.maxScroll body
  | .char _ | .escape | .other => dashboard.scroll

/-- The key quits; `control` says that it is pressed together with another one. -/
def quits (control : Bool) : Key → Bool
  | .char c => c == 'q' || c == 'Q' || (control && c == 'c')
  | .escape => true
  | _ => false

/-- Handle a key. -/
def handleKey (dashboard : Dashboard) (body : Area) (control : Bool) (key : Key) : Dashboard :=
  { dashboard with
    quit := dashboard.quit || quits control key
    scroll := min (dashboard.scrolled body key) (dashboard.maxScroll body) }

/-- The panels that are shown in a body, with their places. -/
def panels (dashboard : Dashboard) (body : Area) : List (EntityFrame × Area) :=
  let area := dashboard.panelArea body
  (dashboard.board.frames.drop (Grid.firstIndex area dashboard.size dashboard.scroll)).zip
    (Grid.rects area dashboard.size dashboard.count dashboard.scroll)

/-- The scrollbar of a body. -/
def scrollbar (dashboard : Dashboard) (body area : Area) : Scrollbar where
  height := area.height
  total := Grid.totalRows (dashboard.panelArea body) dashboard.size dashboard.count
  visible := dashboard.visibleRows body
  scroll := dashboard.scroll

/-- Draw the title. -/
def drawHeader (dashboard : Dashboard) (area : Area) (screen : Screen) : Screen :=
  let row : Area := { area with height := min 1 area.height }
  (screen.putRule row { }).putTitle row
    (Title.header dashboard.endpoint dashboard.mode dashboard.count)

/-- Draw the dashboard. -/
def draw (dashboard : Dashboard) (area : Area) (screen : Screen) : Screen :=
  let body := body area
  let drawn := (dashboard.panels body).foldl (fun screen (frame, area) =>
    Panel.draw screen area frame) (dashboard.drawHeader area screen)
  match dashboard.scrollArea? body with
  | some bar => (dashboard.scrollbar body bar).draw bar drawn
  | none => drawn

/-- The screen of a dashboard. -/
def screen (dashboard : Dashboard) (width height : Nat) : Screen :=
  dashboard.draw ⟨0, 0, width, height⟩ (.blank width height)

end Dashboard

end StatsBoard
