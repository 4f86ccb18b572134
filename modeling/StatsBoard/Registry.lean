import StatsBoard.Entity
import StatsBoard.Metric
import StatsBoard.Series

/-!
# The registry of entities

The registry holds one record per entity, in the order of their discovery. Records are added and
never removed, and a record's identity, kind and metrics do not change once it is there.
-/

namespace StatsBoard

/-- How the series of a new record are made. -/
structure SeriesLayout where
  capacity : Nat := Series.defaultCapacity
  prefill : Bool := false
  watcherMetrics : List Metric := [.cpu, .mem]
  socketMetrics : List Metric := [.reads]
deriving DecidableEq, Repr

namespace SeriesLayout

/-- The metrics of a family in display order. -/
def metricsFor (layout : SeriesLayout) : Family → List Metric
  | .watcher => layout.watcherMetrics
  | .socket => layout.socketMetrics

/-- A new series. -/
def freshSeries (layout : SeriesLayout) : Series :=
  if layout.prefill then .zeroed layout.capacity else .empty layout.capacity

end SeriesLayout

/-- What is known of one entity. -/
structure EntityRecord where
  id : String
  kind : EntityKind
  /-- A series per metric in display order. -/
  series : List (Metric × Series)
  subscribed : Bool
deriving DecidableEq, Repr

namespace EntityRecord

/-- The record of an entity just discovered. -/
def fresh (layout : SeriesLayout) (id : String) (kind : EntityKind) : EntityRecord where
  id := id
  kind := kind
  series := (layout.metricsFor kind.family).map (·, layout.freshSeries)
  subscribed := false

/-- The metrics of a record in display order. -/
def metrics (record : EntityRecord) : List Metric :=
  record.series.map (·.1)

/-- The record has a series for the metric. -/
def tracks (record : EntityRecord) (metric : Metric) : Bool :=
  record.series.any (·.1 == metric)

/-- The series of a metric; the first, if the metric is configured more than once. -/
def series? (record : EntityRecord) (metric : Metric) : Option Series :=
  (record.series.find? (·.1 == metric)).map (·.2)

/-- Change the first series of a metric in a list of series. -/
def modifyFirst (metric : Metric) (change : Series → Series) :
    List (Metric × Series) → List (Metric × Series)
  | [] => []
  | (m, series) :: rest =>
    if m = metric then (m, change series) :: rest
    else (m, series) :: modifyFirst metric change rest

/-- Change the series of a metric. -/
def modifySeries (record : EntityRecord) (metric : Metric) (change : Series → Series) :
    EntityRecord :=
  { record with series := modifyFirst metric change record.series }

/-- Note that the entity's samples are being asked for. -/
def markSubscribed (record : EntityRecord) : EntityRecord :=
  { record with subscribed := true }

/-- The record is that of the aggregate itself or of a child discovered under it. -/
def belongsTo (record : EntityRecord) (aggregate : String) : Bool :=
  record.id == aggregate || record.kind.parent? == some aggregate

end EntityRecord

/-- All records, in the order of their discovery. -/
structure Registry where
  layout : SeriesLayout
  records : List EntityRecord
deriving DecidableEq, Repr

namespace Registry

/-- A registry without records. -/
def empty (layout : SeriesLayout) : Registry := ⟨layout, []⟩

/-- The record of an entity. -/
def get? (registry : Registry) (id : String) : Option EntityRecord :=
  registry.records.find? (·.id == id)

/-- The entity is registered. -/
def contains (registry : Registry) (id : String) : Bool :=
  registry.records.any (·.id == id)

/-- Register an entity unless it is known; the kind matters only to a new record. -/
def ensure (registry : Registry) (id : String) (kind : EntityKind) : Registry :=
  if registry.contains id then registry
  else { registry with records := registry.records ++ [.fresh registry.layout id kind] }

/-- Change the record of an entity. -/
def modify (registry : Registry) (id : String) (change : EntityRecord → EntityRecord) : Registry :=
  { registry with
    records := registry.records.map fun record =>
      if record.id == id then change record else record }

/-- The identifiers in the order of discovery. -/
def ids (registry : Registry) : List String :=
  registry.records.map (·.id)

end Registry

end StatsBoard
