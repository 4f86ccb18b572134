import StatsBoard.Log
import StatsBoard.Registry
import StatsBoard.Stream.Event

/-!
# Subscriptions

Each entity listens to one stream, and a stream leads to the entity that was first to listen to it.
The samples that arrive on a stream go into the series of that entity.
-/

namespace StatsBoard

/-- The stream to which an entity listens. -/
def EntityKind.stream (kind : EntityKind) (id : String) : String :=
  match kind with
  | .aggregate .socket => StreamEvent.socketStream
  | .concrete _ subId .socket => StreamEvent.socketStream ++ "-" ++ subId
  | .aggregate .watcher | .concrete _ _ .watcher => StreamEvent.watcherPrefix ++ id

/-- The streams that lead to an entity. -/
structure Subscriptions where
  routes : List (String × String) := []
deriving DecidableEq, Repr

namespace Subscriptions

/-- The entity to which a stream leads. -/
def route? (subscriptions : Subscriptions) (stream : String) : Option String :=
  (subscriptions.routes.find? (·.1 == stream)).map (·.2)

/-- The stream leads to an entity. -/
def contains (subscriptions : Subscriptions) (stream : String) : Bool :=
  subscriptions.routes.any (·.1 == stream)

/-- The number of streams that lead to an entity. -/
def size (subscriptions : Subscriptions) : Nat :=
  subscriptions.routes.length

/-- Let an entity listen to its stream, unless the stream leads to one already. -/
def subscribe (subscriptions : Subscriptions) (id : String) (kind : EntityKind) : Subscriptions :=
  if subscriptions.contains (kind.stream id) then subscriptions
  else ⟨subscriptions.routes ++ [(kind.stream id, id)]⟩

/-- What is reported when an entity is to listen to its stream. -/
def subscribeLog (subscriptions : Subscriptions) (id : String) (kind : EntityKind) :
    List LogEvent :=
  if subscriptions.contains (kind.stream id) then [] else [.subscribed id (kind.stream id)]

end Subscriptions

/-- The sample of a metric in a payload. -/
def Ranges.payloadSample? (ranges : Ranges) (payload : Members Json) (metric : Metric) :
    Option Binary64 :=
  (payload.get? metric.name).bind (ranges.sample? metric)

/-- Store the samples of a payload for the given metrics in a record, one after the other. -/
def EntityRecord.ingest (ranges : Ranges) (payload : Members Json) (record : EntityRecord)
    (metrics : List Metric) : EntityRecord :=
  metrics.foldl (fun record metric =>
      match ranges.payloadSample? payload metric with
      | some sample => record.modifySeries metric (·.append sample)
      | none => record)
    record

/-- What is reported of the metrics for which a payload has no sample. -/
def EntityRecord.ingestLog (ranges : Ranges) (payload : Members Json) (record : EntityRecord) :
    List LogEvent :=
  (record.metrics.filter fun metric => (ranges.payloadSample? payload metric).isNone).map
    (.missedSample record.id)

/-- What storing the samples of a stream leaves and reports. -/
structure Delivered where
  /-- The entity that was reached. -/
  id : String
  registry : Registry
  log : List LogEvent
deriving DecidableEq

/-- Store the samples that arrive on a stream, if the stream leads to a registered entity. -/
def Subscriptions.deliver (subscriptions : Subscriptions) (registry : Registry) (ranges : Ranges)
    (stream : String) (payload : Members Json) : Option Delivered := do
  let id ← subscriptions.route? stream
  let record ← registry.get? id
  return {
    id := id
    registry := registry.modify id fun record => record.ingest ranges payload record.metrics
    log := record.ingestLog ranges payload }

end StatsBoard
