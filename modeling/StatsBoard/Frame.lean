import StatsBoard.Registry
import StatsBoard.Text.Numeral

/-!
# Frames

A frame is what is shown of one entity at one moment: for each of its metrics the samples, the most
recent one, its label and its color.
-/

namespace StatsBoard

/-- The integer part of a number, brought into the range of 64-bit integers; a NaN counts as
zero. -/
def Binary64.shownInteger (x : Binary64) : Int :=
  x.saturate Int64.minValue.toInt Int64.maxValue.toInt Binary64.integerPart

/-- The label of a metric: the integer part of its most recent sample, with the unit if the metric
has one. -/
def Metric.label (metric : Metric) : Option Binary64 → String
  | none => "n/a"
  | some sample =>
    let number := Text.intNumeral sample.shownInteger
    if metric.unit = "" then number else number ++ " " ++ metric.unit

/-- What is shown of one metric. -/
structure MetricFrame where
  metric : Metric
  values : List Binary64
  latest : Option Binary64
  label : String
  color : String
deriving DecidableEq, Repr

/-- What is shown of one entity. -/
structure EntityFrame where
  entity : String
  kind : EntityKind
  metrics : List MetricFrame
deriving DecidableEq, Repr

/-- The colors of the metrics, as text. -/
abbrev Palette := PerMetric String

namespace Palette

/-- The colors used unless others are configured. -/
def standard : Palette where
  cpu := some "#7AB94C"
  mem := some "#5DAACC"
  reads := some "#CC8E5D"
  age := some "#B0B0B0"

/-- The color of a metric; one without a color is white. -/
def color (palette : Palette) (metric : Metric) : String :=
  (palette.get? metric).getD "white"

end Palette

namespace EntityFrame

/-- What is shown of a metric; the first, if it is shown more than once. -/
def metric? (frame : EntityFrame) (metric : Metric) : Option MetricFrame :=
  frame.metrics.find? (·.metric == metric)

end EntityFrame

/-- What is shown of one series. -/
def Series.frame (series : Series) (metric : Metric) (color : String) : MetricFrame where
  metric := metric
  values := series.samples
  latest := series.latest?
  label := metric.label series.latest?
  color := color

/-- The frame of a record. -/
def EntityRecord.frame (record : EntityRecord) (palette : Palette) : EntityFrame where
  entity := record.id
  kind := record.kind
  metrics := record.series.map fun (metric, series) => series.frame metric (palette.color metric)

end StatsBoard
