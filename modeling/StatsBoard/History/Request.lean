import StatsBoard.Json.Decoder
import StatsBoard.Metric

/-!
# Requests for histories

A request asks for the history of one metric of one aggregate: all of it, or a slice. The indices
of a slice count from the end when they are negative.
-/

namespace StatsBoard

/-- A slice of a history. -/
structure TailRange where
  start : Int := -3
  stop : Int := -1
deriving DecidableEq, Repr

namespace TailRange

/-- The fields of a slice; both must be there. -/
def fields : List (Field TailRange) :=
  [.mandatory "start" (.integer Int64.minValue.toInt Int64.maxValue.toInt) fun range start =>
      { range with start := start },
    .mandatory "end" (.integer Int64.minValue.toInt Int64.maxValue.toInt) fun range stop =>
      { range with stop := stop }]

/-- A slice as it is read. -/
def decoder : Decoder TailRange :=
  .record fields { }

/-- A slice as JSON. -/
def toJson (range : TailRange) : Json :=
  .object [("start", .number (.integer range.start)), ("end", .number (.integer range.stop))]

end TailRange

/-- A request for a history. -/
structure FetchRequest where
  entity : String
  metric : Metric
  /-- The slice that is asked for; without one, everything is. -/
  range : Option TailRange
deriving DecidableEq, Repr

namespace FetchRequest

/-- The history that a request asks for. -/
def pair (request : FetchRequest) : String × Metric :=
  (request.entity, request.metric)

end FetchRequest

end StatsBoard
