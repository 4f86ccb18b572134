import Mathlib.Data.List.Nodup
import StatsBoard.Proofs.Registry
import StatsBoard.Proofs.Series
import StatsBoard.Stream.Subscriptions

/-!
# What a record makes of events

The samples of a payload go into the series of a record one by one. Over a list of events each
series of a record gets the samples of its metric that arrive on the stream of the record, in
order: `EntityRecord.series?_hear_all`.
-/

namespace StatsBoard

/-- The sample of a metric that an event brings for those who listen to a stream. -/
def StreamEvent.sampleOn? (ranges : Ranges) (stream : String) (metric : Metric) :
    StreamEvent → Option Binary64
  | sample name payload => if name = stream then ranges.payloadSample? payload metric else none
  | discovery _ => none

namespace EntityRecord

/-- Take the sample of one metric, if there is one. -/
def ingestOne (ranges : Ranges) (payload : Members Json) (record : EntityRecord)
    (metric : Metric) : EntityRecord :=
  record.ingest ranges payload [metric]

/-- Take the samples of an event, if it is one of the stream to which the entity listens. -/
def hear (ranges : Ranges) (record : EntityRecord) : StreamEvent → EntityRecord
  | .sample name payload =>
    if name = record.kind.stream record.id then record.ingest ranges payload record.metrics
    else record
  | .discovery _ => record

variable {ranges : Ranges} {payload : Members Json} {record : EntityRecord} {metric other : Metric}
  {metrics : List Metric} {event : StreamEvent} {events : List StreamEvent}

/-- The samples of a payload are taken one after the other. -/
theorem ingest_cons : record.ingest ranges payload (metric :: metrics) =
    (record.ingestOne ranges payload metric).ingest ranges payload metrics := rfl

/-- A sample changes at most one series of a record. -/
theorem ingest_one_cases (ranges : Ranges) (payload : Members Json) (record : EntityRecord)
    (metric : Metric) :
    (ranges.payloadSample? payload metric = none ∧
      record.ingestOne ranges payload metric = record) ∨
    ∃ sample, ranges.payloadSample? payload metric = some sample ∧
      record.ingestOne ranges payload metric = record.modifySeries metric (·.append sample) := by
  rw [ingestOne, ingest, List.foldl_cons, List.foldl_nil]
  cases ranges.payloadSample? payload metric with
  | none => exact Or.inl ⟨rfl, rfl⟩
  | some sample => exact Or.inr ⟨sample, rfl, rfl⟩

/-- A series gets the sample of its metric, if there is one. -/
theorem series?_ingest_one :
    (record.ingestOne ranges payload metric).series? other =
      if other = metric then
        (record.series? other).map (·.extend (ranges.payloadSample? payload metric).toList)
      else record.series? other := by
  rcases ingest_one_cases ranges payload record metric with
    ⟨hsample, hrecord⟩ | ⟨sample, hsample, hrecord⟩
  · rw [hrecord, hsample]
    split
    · exact Option.map_id'.symm
    · rfl
  · rw [hrecord, hsample, series?_modify_series]
    rfl

/-- Each series that is asked for gets the sample of its metric, if there is one. -/
theorem series?_ingest (hmetrics : metrics.Nodup) :
    (record.ingest ranges payload metrics).series? metric =
      if metric ∈ metrics then
        (record.series? metric).map (·.extend (ranges.payloadSample? payload metric).toList)
      else record.series? metric := by
  -- A metric occurs once, so each series gets at most one sample.
  induction metrics generalizing record with
  | nil => rfl
  | cons first metrics ih =>
      obtain ⟨hfirst, hmetrics⟩ := List.nodup_cons.mp hmetrics
      rw [ingest_cons, ih hmetrics, series?_ingest_one]
      by_cases hmetric : metric = first
      · subst hmetric
        simp [hfirst]
      · simp [hmetric]

/-- Each series of a record gets the sample of its metric that an event brings on the stream of the
record, if it brings one. -/
theorem series?_hear (hnodup : record.metrics.Nodup) (hmetric : metric ∈ record.metrics) :
    (record.hear ranges event).series? metric = (record.series? metric).map
      (·.extend (event.sampleOn? ranges (record.kind.stream record.id) metric).toList) := by
  cases event with
  | discovery population => exact Option.map_id'.symm
  | sample name payload =>
      rw [hear, StreamEvent.sampleOn?]
      split
      · rw [series?_ingest hnodup, if_pos hmetric]
      · exact Option.map_id'.symm

/-! ## What events leave as it is -/

/-- Records of one entity, which may differ in the samples that they hold. -/
structure SameEntity (first second : EntityRecord) : Prop where
  id : first.id = second.id
  kind : first.kind = second.kind
  subscribed : first.subscribed = second.subscribed
  metrics : first.metrics = second.metrics

/-- A record and itself. -/
theorem SameEntity.refl (record : EntityRecord) : SameEntity record record :=
  ⟨rfl, rfl, rfl, rfl⟩

/-- Records of one entity, compared with a third. -/
theorem SameEntity.trans {first second third : EntityRecord} (h : SameEntity first second)
    (hsecond : SameEntity second third) : SameEntity first third :=
  ⟨h.id.trans hsecond.id, h.kind.trans hsecond.kind, h.subscribed.trans hsecond.subscribed,
    h.metrics.trans hsecond.metrics⟩

/-- Samples of a payload stay with the entity. -/
theorem SameEntity.ingest (record : EntityRecord) (metrics : List Metric) :
    SameEntity (record.ingest ranges payload metrics) record := by
  induction metrics generalizing record with
  | nil => exact .refl record
  | cons metric metrics ih =>
      rw [ingest_cons]
      refine (ih _).trans ?_
      rcases ingest_one_cases ranges payload record metric with ⟨_, hrecord⟩ | ⟨_, _, hrecord⟩
      · rw [hrecord]
        exact .refl record
      · rw [hrecord]
        exact ⟨rfl, rfl, rfl, metrics_modify_series⟩

/-- Events stay with the entity. -/
theorem SameEntity.hear (record : EntityRecord) (event : StreamEvent) :
    SameEntity (record.hear ranges event) record := by
  cases event with
  | discovery population => exact .refl record
  | sample name payload =>
      rw [EntityRecord.hear]
      split
      · exact .ingest record record.metrics
      · exact .refl record

/-! ## Events in order -/

/-- Take the samples of events in order. -/
def hearAll (ranges : Ranges) (record : EntityRecord) (events : List StreamEvent) : EntityRecord :=
  events.foldl (hear ranges) record

/-- Events in order stay with the entity. -/
theorem SameEntity.hear_all (record : EntityRecord) (events : List StreamEvent) :
    SameEntity (record.hearAll ranges events) record := by
  induction events generalizing record with
  | nil => exact .refl record
  | cons event events ih => exact (ih _).trans (.hear record event)

/-- Each series of a record gets the samples of its metric that events bring on the stream of the
record, in order. -/
theorem series?_hear_all (hnodup : record.metrics.Nodup) (hmetric : metric ∈ record.metrics) :
    (record.hearAll ranges events).series? metric = (record.series? metric).map
      (·.extend (events.filterMap (·.sampleOn? ranges (record.kind.stream record.id) metric))) := by
  induction events generalizing record with
  | nil => exact Option.map_id'.symm
  | cons event events ih =>
      have hsame : SameEntity (record.hear ranges event) record := .hear record event
      rw [hearAll, List.foldl_cons, ← hearAll,
        ih (hsame.metrics ▸ hnodup) (hsame.metrics ▸ hmetric), series?_hear hnodup hmetric,
        hsame.id, hsame.kind, Option.map_map]
      refine congrArg (Option.map · _) (funext fun series => ?_)
      rw [Function.comp_apply, ← Series.extend_append]
      cases hsample : event.sampleOn? ranges (record.kind.stream record.id) metric with
      | none =>
          rw [List.filterMap_cons_none hsample]
          rfl
      | some sample =>
          rw [List.filterMap_cons_some hsample]
          rfl

end EntityRecord

end StatsBoard
