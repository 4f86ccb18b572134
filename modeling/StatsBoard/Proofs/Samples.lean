import StatsBoard.Proofs.Metric
import StatsBoard.Proofs.Operations

/-!
# Samples stay within bounds

What a series holds are zeros, if it was filled with zeros at first, and then samples that are
admitted by the range of its metric, no more of them than the configured capacity
(`Settings.Bounded`); what is added goes after what is there (`Settings.Continues`). That holds of
each series of a session at every moment, and therefore of all that was ever drawn:
`samples_bounded`.
-/

namespace StatsBoard

/-- A usable sample is admitted by the range of its metric. -/
theorem Ranges.Yields.admits {ranges : Ranges} {metric : Metric} {sample : Binary64}
    (hranges : ranges.Valid) (h : ranges.Yields metric sample) : ranges.Admits metric sample := by
  obtain ⟨raw, hraw⟩ := h
  exact admits_of_sample hranges hraw

namespace SeriesLayout

/-- The number of zeros with which a new series begins. -/
def zeros (layout : SeriesLayout) : Nat :=
  if layout.prefill then layout.capacity else 0

/-- What a new series holds are zeros. -/
theorem initial_eq_replicate (layout : SeriesLayout) :
    layout.initial = List.replicate layout.zeros .zero := by
  rw [initial, zeros]
  split <;> rfl

end SeriesLayout

namespace Settings

/-- Samples of a metric as a session keeps and shows them: zeros, if series are filled with zeros at
first, and then samples that the range of the metric admits, at most as many as configured, and
exactly as many if series are filled at first. -/
structure Bounded (settings : Settings) (metric : Metric) (samples : List Binary64) : Prop where
  zeros_first : ∃ zeros values, samples = List.replicate zeros .zero ++ values ∧
    (settings.layout.prefill = false → zeros = 0) ∧
    ∀ value ∈ values, settings.ranges.Admits metric value
  length_le : samples.length ≤ settings.layout.capacity
  full : settings.layout.prefill → samples.length = settings.layout.capacity

/-- Samples go on with admitted ones after those that were there, of which the oldest are pushed out
if there are too many. -/
def Continues (settings : Settings) (metric : Metric) (before after : List Binary64) : Prop :=
  ∃ added, (∀ sample ∈ added, settings.ranges.Admits metric sample) ∧
    after = lastItems settings.layout.capacity (before ++ added)

variable {settings : Settings} {metric : Metric}

/-- The last of some zeros and of the admitted samples after them are such again. -/
theorem zeros_first_of_drop {samples : List Binary64}
    (hsamples : ∀ sample ∈ samples, settings.ranges.Admits metric sample) (count : Nat) :
    ∃ zeros values, (settings.layout.initial ++ samples).drop count =
        List.replicate zeros .zero ++ values ∧
      (settings.layout.prefill = false → zeros = 0) ∧
      ∀ value ∈ values, settings.ranges.Admits metric value := by
  refine ⟨settings.layout.zeros - count, samples.drop (count - settings.layout.zeros), ?_, ?_, ?_⟩
  · rw [settings.layout.initial_eq_replicate, List.drop_append, List.drop_replicate,
      List.length_replicate]
  · intro hprefill
    rw [SeriesLayout.zeros, hprefill, if_neg Bool.false_ne_true, Nat.zero_sub]
  · exact fun value hvalue => hsamples value (List.mem_of_mem_drop hvalue)

/-- A new series that was given admitted samples is bounded. -/
theorem bounded_of_fresh {samples : List Binary64}
    (hsamples : ∀ sample ∈ samples, settings.ranges.Admits metric sample) :
    settings.Bounded metric (settings.layout.freshSeries.extend samples).samples := by
  rw [Series.extend_eq settings.layout.fits_fresh_series, settings.layout.fresh_series_eq]
  refine ⟨zeros_first_of_drop hsamples _, ?length, ?full⟩
  case length =>
    rw [length_last_items]
    exact Nat.min_le_left ..
  case full =>
    intro hprefill
    rw [length_last_items, List.length_append, settings.layout.initial_eq_replicate,
      List.length_replicate, SeriesLayout.zeros, if_pos hprefill]
    exact Nat.min_eq_left (Nat.le_add_right ..)

end Settings

/-- What is shown of the metrics of a record, in their order. -/
theorem EntityRecord.metrics_frame (record : EntityRecord) (palette : Palette) :
    (record.frame palette).metrics.map (·.metric) = record.metrics := by
  rw [EntityRecord.frame, List.map_map, EntityRecord.metrics]
  rfl

namespace Engine

variable {settings : Settings} {operations : List Operation} {record : EntityRecord}

/-- The metrics of a record are those configured for the family of its entity. -/
theorem metrics_of_reached (hrecord : record ∈ (reached settings operations).registry.records) :
    record.metrics = settings.layout.metricsFor record.kind.family := by
  obtain ⟨kind, hgrows⟩ := grown_from_fresh hrecord
  rw [hgrows.metrics, hgrows.kind, EntityRecord.metrics_fresh, EntityRecord.kind_fresh]

/-- The series of every record are bounded. -/
theorem bounded_of_reached (hranges : settings.ranges.Valid)
    (hrecord : record ∈ (reached settings operations).registry.records)
    {entry : Metric × Series} (hentry : entry ∈ record.series) :
    settings.Bounded entry.1 entry.2.samples := by
  obtain ⟨samples, hsamples, hseries⟩ := series_of_reached hrecord hentry
  rw [hseries]
  exact Settings.bounded_of_fresh fun sample hsample => (hsamples sample hsample).admits hranges

/-- The series of every record have the configured capacity. -/
theorem capacity_of_reached (hrecord : record ∈ (reached settings operations).registry.records)
    {entry : Metric × Series} (hentry : entry ∈ record.series) :
    entry.2.capacity = settings.layout.capacity := by
  obtain ⟨samples, -, hseries⟩ := series_of_reached hrecord hentry
  rw [hseries, Series.capacity_extend, settings.layout.fresh_series_eq]

/-- Later operations let the series of a record go on. -/
theorem continues_of_reached (hranges : settings.ranges.Valid) {earlier : List Operation}
    (hearlier : earlier <+: operations)
    (hrecord : record ∈ (reached settings earlier).registry.records) :
    ∃ grown, (reached settings operations).registry.get? record.id = some grown ∧
      List.Forall₂ (fun before after => after.1 = before.1 ∧
        settings.Continues before.1 before.2.samples after.2.samples)
        record.series grown.series := by
  obtain ⟨later, rfl⟩ := hearlier
  obtain ⟨grown, hgrown, hsame⟩ := (grows_reached settings earlier later).kept record.id record
    (Registry.get?_of_mem (nodup_reached settings earlier) hrecord)
  refine ⟨grown, hgrown, ?_⟩
  have hbefore : ∀ entry ∈ record.series,
      entry.2.Fits ∧ entry.2.capacity = settings.layout.capacity :=
    fun entry hentry => ⟨fits_of_reached hrecord hentry, capacity_of_reached hrecord hentry⟩
  refine ((List.forall₂_and_left _ _).mpr ⟨hbefore, hsame.series⟩).imp ?_
  rintro before _ ⟨⟨hfits, hcapacity⟩, samples, hsamples, rfl⟩
  refine ⟨rfl, samples, fun sample hsample => (hsamples sample hsample).admits hranges, ?_⟩
  rw [Series.extend_eq hfits, hcapacity]

/-- If the ranges that are given are valid, then at every moment of every session each series of
each record is bounded, and holds what it held at any moment before followed by what was added
since, without the oldest samples if those are too many. Each frame that was drawn is that of a
record at some moment; it shows the metrics configured for the family of its entity in their order,
of each of them bounded samples and as the latest one the last of these. -/
theorem samples_bounded (hranges : settings.ranges.Valid) (operations : List Operation) :
    (∀ record ∈ (reached settings operations).registry.records, ∀ entry ∈ record.series,
      settings.Bounded entry.1 entry.2.samples) ∧
    (∀ earlier, earlier <+: operations →
      ∀ record ∈ (reached settings earlier).registry.records, ∃ grown,
        (reached settings operations).registry.get? record.id = some grown ∧
        List.Forall₂ (fun before after => after.1 = before.1 ∧
          settings.Continues before.1 before.2.samples after.2.samples)
          record.series grown.series) ∧
    ∀ frame ∈ (reached settings operations).frames,
      (∃ earlier, earlier <+: operations ∧
        ∃ record ∈ (reached settings earlier).registry.records,
          frame = record.frame settings.palette) ∧
      frame.metrics.map (·.metric) = settings.layout.metricsFor frame.kind.family ∧
      ∀ shown ∈ frame.metrics, settings.Bounded shown.metric shown.values ∧
        shown.latest = shown.values.getLast? := by
  refine ⟨?stored, ?continued, ?shown⟩
  case stored => exact fun record hrecord entry => bounded_of_reached hranges hrecord
  case continued =>
    exact fun earlier hearlier record hrecord => continues_of_reached hranges hearlier hrecord
  case shown =>
    intro frame hframe
    obtain ⟨earlier, hearlier, record, hrecord, rfl⟩ := drawn_at_some_moment hframe
    refine ⟨⟨earlier, hearlier, record, hrecord, rfl⟩, ?metrics, ?values⟩
    case metrics =>
      exact (record.metrics_frame settings.palette).trans (metrics_of_reached hrecord)
    case values =>
      intro shown hshown
      obtain ⟨entry, hentry, rfl⟩ := List.mem_map.mp hshown
      exact ⟨bounded_of_reached hranges hrecord hentry, rfl⟩

/-- The load and the age of `web`, in full series of three samples; ages are at least 10 and at most
20. -/
def agedWatcher : Settings where
  watchers := ["web"]
  layout := { capacity := 3, prefill := true, watcherMetrics := [.cpu, .age] }
  ranges := { age := some ⟨some (.ofInt 10), some (.ofInt 20)⟩ }

/-- Samples of `web` beyond the ranges, and one that is no number. -/
def samplesBeyondRanges : List Operation :=
  [.start,
    .handleEvent (.sample "stats-web" [("cpu", .number (.integer 150)), ("age", .string " 5 ")]),
    .handleEvent (.sample "stats-web" [("cpu", .string "nan"), ("age", .string "1e999")]),
    .handleEvent (.sample "stats-web" [("age", .number (.integer 12))])]

/-- The zeros at first lie below the range of the ages, and all other samples in their ranges. -/
theorem samples_bounded_below_zeros :
    agedWatcher.ranges.Valid ∧
    (reached agedWatcher samplesBeyondRanges).registry.records.map (·.series) =
      [[(.cpu, ⟨3, [.zero, .zero, .ofInt 100]⟩), (.age, ⟨3, [.zero, .ofInt 10, .ofInt 12]⟩)]] ∧
    (∀ record ∈ (reached agedWatcher samplesBeyondRanges).registry.records,
      ∀ entry ∈ record.series, agedWatcher.Bounded entry.1 entry.2.samples) ∧
    (reached agedWatcher samplesBeyondRanges).frames.length = 4 ∧
    ∀ frame ∈ (reached agedWatcher samplesBeyondRanges).frames, ∀ shown ∈ frame.metrics,
      agedWatcher.Bounded shown.metric shown.values ∧ shown.latest = shown.values.getLast? := by
  have hranges : agedWatcher.ranges.Valid := by
    intro metric range hrange
    cases metric <;> cases hrange
    decide +kernel
  obtain ⟨hstored, -, hdrawn⟩ := samples_bounded hranges samplesBeyondRanges
  refine ⟨hranges, ?_, hstored, ?_, fun frame hframe => (hdrawn frame hframe).2.2⟩
  <;> decide +kernel

end Engine

end StatsBoard
