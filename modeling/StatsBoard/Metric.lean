import StatsBoard.Binary64.Reading
import StatsBoard.Json.Value
import StatsBoard.Text.Blank
import StatsBoard.Text.Letter

/-!
# Metrics and their ranges

The four metrics that a watcher or socket can report, the inclusive ranges into which their samples
are clamped, and the reading of a JSON value as a sample.
-/

namespace StatsBoard

/-- A metric. -/
inductive Metric where
  | cpu
  | mem
  | reads
  | age
deriving DecidableEq, Repr

namespace Metric

/-- All metrics, in their order. -/
def all : List Metric := [cpu, mem, reads, age]

/-- The name of a metric in payloads, addresses and files. -/
def name : Metric → String
  | cpu => "cpu"
  | mem => "mem"
  | reads => "reads"
  | age => "age"

/-- The unit of a metric, empty if it has none. -/
def unit : Metric → String
  | cpu | mem => "%"
  | reads => ""
  | age => "s"

/-- The metric is a share of one hundred. -/
def isPercentage : Metric → Bool
  | cpu | mem => true
  | reads | age => false

/-- The metric with exactly the given name. -/
def ofName? (name : String) : Option Metric :=
  all.find? (·.name == name)

/-- The metric named by a text, up to blanks around it and ASCII case. -/
def parse? (text : String) : Option Metric :=
  ofName? (Text.toLowerAscii (Text.trim text))

/-- What is said of a text that names no metric. -/
def unknownMessage (text : String) : String :=
  "unknown metric '" ++ text ++ "' (expected cpu, mem, reads or age)"

end Metric

/-- A value for some of the metrics. -/
structure PerMetric (α : Type) where
  cpu : Option α := none
  mem : Option α := none
  reads : Option α := none
  age : Option α := none
deriving DecidableEq, Repr

namespace PerMetric

variable {α : Type}

/-- The value for a metric. -/
def get? (values : PerMetric α) : Metric → Option α
  | .cpu => values.cpu
  | .mem => values.mem
  | .reads => values.reads
  | .age => values.age

/-- Give a metric a value. -/
def put (values : PerMetric α) (metric : Metric) (value : α) : PerMetric α :=
  match metric with
  | .cpu => { values with cpu := some value }
  | .mem => { values with mem := some value }
  | .reads => { values with reads := some value }
  | .age => { values with age := some value }

/-- No values. -/
def empty : PerMetric α := { }

/-- The metrics that have a value, with it, in the order of the metrics. -/
def toList (values : PerMetric α) : List (Metric × α) :=
  Metric.all.filterMap fun metric => (values.get? metric).map (metric, ·)

/-- The values of `first`, and those of `second` for the metrics that have none there. -/
def orElse (first second : PerMetric α) : PerMetric α where
  cpu := first.cpu.or second.cpu
  mem := first.mem.or second.mem
  reads := first.reads.or second.reads
  age := first.age.or second.age

end PerMetric

/-- Inclusive bounds of samples; a missing bound does not bound. -/
structure SampleRange where
  min : Option Binary64 := none
  max : Option Binary64 := none
deriving DecidableEq, Repr

namespace SampleRange

/-- From zero to one hundred. -/
def percent : SampleRange := ⟨some (.ofInt 0), some (.ofInt 100)⟩

/-- No bounds. -/
def unbounded : SampleRange := ⟨none, none⟩

/-- Lower a value to the upper bound, then raise it to the lower one. -/
def clamp (range : SampleRange) (value : Binary64) : Binary64 :=
  let lowered := match range.max with
    | some high => if high.lt value then high else value
    | none => value
  match range.min with
  | some low => if lowered.lt low then low else lowered
  | none => lowered

/-- The bounds are finite, and the lower one is not above the upper one. -/
def isValid (range : SampleRange) : Bool :=
  match range.min, range.max with
  | some low, some high => low.isFinite && high.isFinite && low.le high
  | some bound, none | none, some bound => bound.isFinite
  | none, none => true

end SampleRange

/-- The range of a metric unless it is given another. -/
def Metric.defaultRange (metric : Metric) : SampleRange :=
  if metric.isPercentage then .percent else .unbounded

/-- The ranges that replace the default ones. -/
abbrev Ranges := PerMetric SampleRange

namespace Ranges

/-- The range of a metric. -/
def range (ranges : Ranges) (metric : Metric) : SampleRange :=
  (ranges.get? metric).getD metric.defaultRange

/-- A value clamped into the range of its metric. -/
def normalize (ranges : Ranges) (metric : Metric) (value : Binary64) : Binary64 :=
  (ranges.range metric).clamp value

end Ranges

/-- The finite number that a JSON value is or, as text, writes. -/
def Json.sample? (raw : Json) : Option Binary64 :=
  let read := match raw with
    | .number n => some n.toBinary64
    | .string s => Binary64.ofText? (Text.trim s)
    | _ => none
  read.filter (·.isFinite)

/-- The clamped sample of a metric in a JSON value; a value that is no finite number is a missed
sample. -/
def Ranges.sample? (ranges : Ranges) (metric : Metric) (raw : Json) : Option Binary64 :=
  raw.sample?.map (ranges.normalize metric)

end StatsBoard
