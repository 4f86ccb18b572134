import StatsBoard.Frame

/-!
# Text lines

A frame as one line of text: the entity, padded to a column, and for each metric its name, a bar of
block characters and its label.
-/

namespace StatsBoard

namespace Line

/-- The width of the column of entity names. -/
def nameWidth : Nat := 20

/-- The characters that fill a cell by eighths, from nothing to all of it. -/
def levels : List Char :=
  [' ', '▁', '▂', '▃', '▄', '▅', '▆', '▇', '█']

/-- The text followed by as many spaces as a column of the given width has left. -/
def padRight (width : Nat) (s : String) : String :=
  s ++ String.ofList (List.replicate (width - s.length) ' ')

/-- The level at which a sample is drawn when `top` fills the cell. -/
def level (top sample : Binary64) : Nat :=
  if Binary64.zero.lt top then
    let eighths := ((sample.max .zero).div top).mul (.ofInt 8)
    min 8 (eighths.saturate 0 (UInt64.size - 1) Binary64.nearestInteger).toNat
  else 0

/-- The sample that fills a cell: one hundred for a percentage, else the largest of the samples. -/
def top (frame : MetricFrame) : Binary64 :=
  if frame.metric.isPercentage then .ofInt 100 else frame.values.foldl .max .zero

/-- A bar of the most recent samples, one character for each. -/
def bar (width : Nat) (frame : MetricFrame) : String :=
  String.ofList ((lastItems width frame.values).map fun sample =>
    levels.getD (level (top frame) sample) ' ')

/-- The part of a line that shows one metric. -/
def metricText (width : Nat) (frame : MetricFrame) : String :=
  "  " ++ frame.metric.name ++ " " ++ bar width frame ++ " " ++ frame.label

end Line

/-- The line of a frame, with its line end. Bars show at most `width` samples. -/
def EntityFrame.line (width : Nat) (frame : EntityFrame) : String :=
  String.join (Line.padRight Line.nameWidth frame.entity
    :: frame.metrics.map (Line.metricText width)) ++ "\n"

/-- The lines of frames in order. -/
def EntityFrame.lines (width : Nat) (frames : List EntityFrame) : String :=
  String.join (frames.map (·.line width))

end StatsBoard
