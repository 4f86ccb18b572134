import StatsBoard.Dashboard.Title
import StatsBoard.Frame
import StatsBoard.Screen.Frame
import StatsBoard.Screen.Paragraph
import StatsBoard.Screen.Sparkline

/-!
# Panels

A panel shows one entity: a box with its name, and for each metric a bar of samples and a label.
The metrics share the height of the box.
-/

namespace StatsBoard.Panel

/-- The color of the box of an entity that is not an aggregate. -/
def childColor : Color := .darkGray

/-- The edge before part `index` of `count` equal parts of a height. Edges are first brought to
hundredths of a row, then to rows. -/
def edge (height count index : Nat) : Nat :=
  Binary64.divHalfUp (Binary64.divHalfUp (100 * index * height) count) 100

/-- The rows of a part of the screen that `count` metrics share. -/
def shares (area : Area) (count : Nat) : List Area :=
  (List.range count).map fun index =>
    let top := edge area.height count index
    { area with y := area.y + top, height := edge area.height count (index + 1) - top }

/-- The width of labels. -/
def labelWidth : Nat := 12

/-- The least width of bars, where there is as much. -/
def leastBarWidth : Nat := 4

/-- The part of a row for bars and the part for the label. -/
def splitRow (area : Area) : Area × Area :=
  let bars := max (area.width - labelWidth) (min leastBarWidth area.width)
  ({ area with width := bars }, area.indent bars)

/-- The text before which a column has as many spaces as it has left. -/
def padLeft (width : Nat) (s : String) : String :=
  String.ofList (List.replicate (width - s.length) ' ') ++ s

/-- The label of a metric with its name. -/
def label (frame : MetricFrame) : String :=
  frame.metric.name ++ " " ++ padLeft 6 frame.label

/-- Draw one metric. -/
def drawMetric (screen : Screen) (area : Area) (frame : MetricFrame) : Screen :=
  let (bars, label) := splitRow area
  let color := Color.parseOrWhite frame.color
  let amounts := Sparkline.amounts bars.width frame.values
  let top := if frame.metric.isPercentage then 100 else Sparkline.largest amounts
  (Sparkline.putBars screen bars { foreground := some color } top amounts).putRight label
    { foreground := some color, bold := true } (Panel.label frame)

/-- Draw a panel. -/
def draw (screen : Screen) (area : Area) (frame : EntityFrame) : Screen :=
  let style : Style := if frame.kind.isAggregate then { } else { foreground := some childColor }
  let titleArea : Area := { area.indent 1 with width := area.width - 1 - 1 }
  let boxed := (screen.putBox area style).putTitle titleArea
    (Title.truncateMiddle frame.entity (area.width - 4))
  let inner := area.inner
  if inner.height = 0 then boxed
  else
    ((shares inner frame.metrics.length).zip frame.metrics).foldl
      (fun screen (row, metric) => drawMetric screen row metric) boxed

end StatsBoard.Panel
