import StatsBoard.Json.Decoder

/-!
# The request that starts a stream

The aggregates whose samples are asked for: those charted as one entity, and those whose processes
or sockets are charted one by one.
-/

namespace StatsBoard

/-- The aggregates that a stream is asked to report. -/
structure StartRequest where
  watchers : List String := []
  watchersWithPids : List String := []
deriving DecidableEq, Repr

namespace StartRequest

/-- The fields of a start request; both may be missing. -/
def fields : List (Field StartRequest) :=
  [.optional "watchers" (.list .string) fun request names => { request with watchers := names },
    .optional "watchersWithPids" (.list .string) fun request names =>
      { request with watchersWithPids := names }]

/-- A start request as it is read. -/
def decoder : Decoder StartRequest :=
  .record fields { }

/-- A start request as JSON. -/
def toJson (request : StartRequest) : Json :=
  .object [("watchers", .ofStrings request.watchers),
    ("watchersWithPids", .ofStrings request.watchersWithPids)]

end StartRequest

end StatsBoard
