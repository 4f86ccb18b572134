import Mathlib.Data.List.Forall2
import StatsBoard.Proofs.History.Receive
import StatsBoard.Proofs.Stream.Ingest

/-!
# How a registry grows

Whatever is done with a registry registers entities after the others, marks records and adds usable
samples to series. A record that has gone through that is the same record with longer series
(`EntityRecord.Grows`), and a registry lists what it listed before and then the newcomers
(`Registry.Grows`). The place at which an entity was registered goes on leading to its record:
`Registry.Grows.get?_of_place`.
-/

namespace StatsBoard

/-! ## Usable samples -/

/-- A sample of a metric is what some JSON value says once it is clamped. -/
def Ranges.Yields (ranges : Ranges) (metric : Metric) (sample : Binary64) : Prop :=
  ∃ raw, ranges.sample? metric raw = some sample

variable {ranges : Ranges} {metric : Metric} {payload : Members Json}

/-- The samples of a payload are usable. -/
theorem Ranges.yields_of_payload_sample {sample : Binary64}
    (h : ranges.payloadSample? payload metric = some sample) : ranges.Yields metric sample := by
  obtain ⟨raw, -, hraw⟩ := Option.bind_eq_some_iff.mp h
  exact ⟨raw, hraw⟩

/-- The samples of an answer are usable. -/
theorem Ranges.yields_of_mem_samples {values : List Json} {sample : Binary64}
    (h : sample ∈ ranges.samples metric values) : ranges.Yields metric sample := by
  obtain ⟨raw, -, hraw⟩ := List.mem_filterMap.mp h
  exact ⟨raw, hraw⟩

/-- A series has been given usable samples of its metric. -/
def Fed (ranges : Ranges) (before after : Metric × Series) : Prop :=
  ∃ samples, (∀ sample ∈ samples, ranges.Yields before.1 sample) ∧
    after = (before.1, before.2.extend samples)

/-- A series that is given nothing stays as it is. -/
theorem Fed.refl (entry : Metric × Series) : Fed ranges entry entry :=
  ⟨[], List.forall_mem_nil _, rfl⟩

/-- A series can be given samples in two parts. -/
theorem Fed.trans {first second third : Metric × Series} (h : Fed ranges first second)
    (hsecond : Fed ranges second third) : Fed ranges first third := by
  obtain ⟨samples, hsamples, rfl⟩ := h
  obtain ⟨more, hmore, rfl⟩ := hsecond
  exact ⟨samples ++ more, List.forall_mem_append.mpr ⟨hsamples, hmore⟩,
    congrArg _ (Series.extend_append samples more).symm⟩

/-! ## Records -/

namespace EntityRecord

/-- A record is the same record, marked or not as before, or marked since, and its series have been
given usable samples. -/
structure Grows (ranges : Ranges) (before after : EntityRecord) : Prop where
  id : after.id = before.id
  kind : after.kind = before.kind
  subscribed : before.subscribed → after.subscribed
  series : List.Forall₂ (Fed ranges) before.series after.series

variable {record first second third : EntityRecord}

/-- A record that stays as it is. -/
theorem Grows.refl (record : EntityRecord) : record.Grows ranges record :=
  ⟨rfl, rfl, fun h => h, List.forall₂_same.mpr fun entry _ => .refl entry⟩

/-- A record can grow in two parts. -/
theorem Grows.trans (h : first.Grows ranges second) (hsecond : second.Grows ranges third) :
    first.Grows ranges third where
  id := hsecond.id.trans h.id
  kind := hsecond.kind.trans h.kind
  subscribed hmarked := hsecond.subscribed (h.subscribed hmarked)
  series := by
    have hfirst := List.forall₂_iff_get.mp h.series
    have hlast := List.forall₂_iff_get.mp hsecond.series
    refine List.forall₂_iff_get.mpr ⟨hfirst.1.trans hlast.1, fun place hplace hthird => ?_⟩
    have hmiddle : place < second.series.length := hfirst.1 ▸ hplace
    exact (hfirst.2 place hplace hmiddle).trans (hlast.2 place hmiddle hthird)

/-- A mark leaves the series as they are. -/
theorem Grows.mark (record : EntityRecord) : record.Grows ranges record.markSubscribed :=
  ⟨rfl, rfl, fun _ => rfl, (Grows.refl record).series⟩

/-- The series of a metric can be given usable samples. -/
theorem Grows.extend (record : EntityRecord) {samples : List Binary64}
    (hsamples : ∀ sample ∈ samples, ranges.Yields metric sample) :
    record.Grows ranges (record.modifySeries metric (·.extend samples)) where
  id := rfl
  kind := rfl
  subscribed h := h
  series := by
    show List.Forall₂ (Fed ranges) record.series (modifyFirst metric _ record.series)
    induction record.series with
    | nil => exact .nil
    | cons entry rest ih =>
        obtain ⟨m, series⟩ := entry
        rw [modifyFirst]
        split
        next hmetric =>
          subst hmetric
          exact .cons ⟨samples, hsamples, rfl⟩ (List.forall₂_same.mpr fun entry _ => .refl entry)
        next => exact .cons (.refl _) ih

/-- The samples of a payload go into the series of their metrics. -/
theorem Grows.ingest (record : EntityRecord) (metrics : List Metric) :
    record.Grows ranges (record.ingest ranges payload metrics) := by
  induction metrics generalizing record with
  | nil => exact .refl record
  | cons metric metrics ih =>
      rw [ingest_cons]
      refine Grows.trans ?_ (ih _)
      rcases ingest_one_cases ranges payload record metric with ⟨_, h⟩ | ⟨sample, hsample, h⟩
      · rw [h]
        exact .refl record
      · rw [h]
        have husable := Ranges.yields_of_payload_sample hsample
        exact .extend record (List.forall_mem_singleton.mpr husable)

/-- A record goes on listing the same metrics. -/
theorem Grows.metrics (h : first.Grows ranges second) : second.metrics = first.metrics := by
  have hsame : List.Forall₂ (fun before after : Metric × Series => before.1 = after.1)
      first.series second.series := by
    refine h.series.imp fun before after hfed => ?_
    obtain ⟨samples, -, rfl⟩ := hfed
    rfl
  rw [eq_comm, EntityRecord.metrics, EntityRecord.metrics, ← List.forall₂_eq_eq_eq,
    List.forall₂_map_left_iff, List.forall₂_map_right_iff]
  exact hsame

/-- The series of a record that has grown from a new one are new series that were given usable
samples. -/
theorem Grows.series_of_fresh {layout : SeriesLayout} {id : String} {kind : EntityKind}
    (h : (fresh layout id kind).Grows ranges record) {entry : Metric × Series}
    (hentry : entry ∈ record.series) :
    ∃ samples, (∀ sample ∈ samples, ranges.Yields entry.1 sample) ∧
      entry.2 = layout.freshSeries.extend samples := by
  obtain ⟨place, hplace, rfl⟩ := List.getElem_of_mem hentry
  obtain ⟨hlength, hfed⟩ := List.forall₂_iff_get.mp h.series
  obtain ⟨samples, hsamples, hgrown⟩ := hfed place (hlength ▸ hplace) hplace
  rw [List.get_eq_getElem, List.get_eq_getElem] at hgrown
  rw [hgrown]
  refine ⟨samples, hsamples, ?_⟩
  simp [fresh]

end EntityRecord

/-! ## Registries -/

namespace Registry

/-- The place of an entity among the records. -/
def place? (registry : Registry) (id : String) : Option Nat :=
  registry.ids.idxOf? id

variable {registry first second third : Registry} {id other : String} {kind : EntityKind}
  {record : EntityRecord} {place : Nat}

/-- The record of an entity stands at the place of the entity. -/
theorem get?_of_place (h : registry.place? id = some place) :
    registry.get? id = registry.records[place]? := by
  obtain ⟨hplace, hid, hbefore⟩ := List.idxOf?_eq_some_iff.mp h
  rw [ids, List.length_map] at hplace
  have hfound : registry.records[place].id = id := by simpa [ids] using hid
  rw [get?, List.getElem?_eq_getElem hplace, List.find?_eq_some_iff_getElem]
  refine ⟨by simpa using hfound, place, hplace, rfl, fun earlier hearlier => ?_⟩
  simpa [ids] using hbefore earlier hearlier

/-- A registry lists what it listed before and then newcomers; records under old identifiers have
grown, and those under new ones have grown from new records. -/
structure Grows (ranges : Ranges) (before after : Registry) : Prop where
  layout : after.layout = before.layout
  ids : before.ids <+: after.ids
  nodup : before.ids.Nodup → after.ids.Nodup
  kept : ∀ id record, before.get? id = some record →
    ∃ grown, after.get? id = some grown ∧ record.Grows ranges grown
  added : ∀ id grown, before.get? id = none → after.get? id = some grown →
    ∃ kind, (EntityRecord.fresh before.layout id kind).Grows ranges grown

/-- A registry that stays as it is. -/
theorem Grows.refl (registry : Registry) : registry.Grows ranges registry where
  layout := rfl
  ids := List.prefix_refl _
  nodup h := h
  kept _ record h := ⟨record, h, .refl record⟩
  added id grown hnone hgrown := by
    rw [hnone] at hgrown
    cases hgrown

/-- A registry can grow in two parts. -/
theorem Grows.trans (h : first.Grows ranges second) (hsecond : second.Grows ranges third) :
    first.Grows ranges third where
  layout := hsecond.layout.trans h.layout
  ids := h.ids.trans hsecond.ids
  nodup hnodup := hsecond.nodup (h.nodup hnodup)
  kept id record hrecord := by
    obtain ⟨middle, hmiddle, hfirst⟩ := h.kept id record hrecord
    obtain ⟨grown, hgrown, hlast⟩ := hsecond.kept id middle hmiddle
    exact ⟨grown, hgrown, hfirst.trans hlast⟩
  added id grown hnone hgrown := by
    cases hmiddle : second.get? id with
    | none =>
        obtain ⟨kind, hkind⟩ := hsecond.added id grown hmiddle hgrown
        exact ⟨kind, h.layout ▸ hkind⟩
    | some middle =>
        obtain ⟨kind, hkind⟩ := h.added id middle hnone hmiddle
        obtain ⟨last, hlast, hgrows⟩ := hsecond.kept id middle hmiddle
        obtain rfl := Option.some.inj (hgrown.symm.trans hlast)
        exact ⟨kind, hkind.trans hgrows⟩

/-- Registering an entity adds a new record, or nothing. -/
theorem Grows.ensure (registry : Registry) (id : String) (kind : EntityKind) :
    registry.Grows ranges (registry.ensure id kind) where
  layout := layout_ensure
  ids := by
    rw [ids_ensure]
    split
    · exact List.prefix_refl _
    · exact List.prefix_append ..
  nodup := nodup_ensure
  kept other record hrecord := by
    refine ⟨record, ?_, .refl record⟩
    rw [get?_ensure]
    by_cases hother : other = id
    · rw [if_pos hother, ← hother, hrecord, Option.getD_some]
    · rw [if_neg hother, hrecord]
  added other grown hnone hgrown := by
    rw [get?_ensure] at hgrown
    split at hgrown
    next hother =>
      rw [← hother, hnone, Option.getD_none] at hgrown
      exact ⟨kind, Option.some.inj hgrown ▸ .refl _⟩
    next =>
      rw [hnone] at hgrown
      cases hgrown

/-- Growth of the record under one identifier is growth of the registry. -/
theorem Grows.modify (registry : Registry) (id : String) {change : EntityRecord → EntityRecord}
    (hchange : ∀ record : EntityRecord, record.Grows ranges (change record)) :
    registry.Grows ranges (registry.modify id change) where
  layout := rfl
  ids := by
    rewrite [ids_modify fun record => (hchange record).id]
    exact List.prefix_refl _
  nodup hnodup := by rwa [ids_modify fun record => (hchange record).id]
  kept other record hrecord := by
    rw [get?_modify fun record => (hchange record).id, hrecord]
    split
    · exact ⟨change record, rfl, hchange record⟩
    · exact ⟨record, rfl, .refl record⟩
  added other grown hnone hgrown := by
    rw [get?_modify fun record => (hchange record).id, hnone] at hgrown
    split at hgrown <;> cases hgrown

/-- Enlisting an entity registers it if need be and marks its record. -/
theorem Grows.enlist (registry : Registry) (id : String) (kind : EntityKind) :
    registry.Grows ranges (registry.enlist id kind) :=
  (Grows.ensure registry id kind).trans (.modify _ id .mark)

/-- A part of an answer enlists its entity and stores its samples. -/
theorem Grows.receive (registry : Registry) (share : Share) :
    registry.Grows ranges (registry.receive ranges metric share) := by
  cases share with
  | skipped key => exact .refl registry
  | samples id kind values =>
      have hstores (record : EntityRecord) : record.Grows ranges
          (record.modifySeries metric (·.extend (ranges.samples metric values))) :=
        .extend record fun _ => Ranges.yields_of_mem_samples
      exact (Grows.enlist registry id kind).trans (.modify _ id hstores)

/-- An answer is stored part by part. -/
theorem Grows.foldl_receive (registry : Registry) (shares : List Share) :
    registry.Grows ranges (shares.foldl (Registry.receive ranges metric) registry) := by
  induction shares generalizing registry with
  | nil => exact .refl registry
  | cons share shares ih => exact (Grows.receive registry share).trans (ih _)

/-- The place of an entity goes on leading to the record of the entity. -/
theorem Grows.get?_of_place (h : first.Grows ranges second)
    (hplace : first.place? id = some place) :
    second.get? id = second.records[place]? := by
  obtain ⟨added, hadded⟩ := h.ids
  rw [place?, List.idxOf?] at hplace
  refine Registry.get?_of_place ?_
  rw [place?, List.idxOf?, ← hadded, List.findIdx?_append, hplace, Option.some_or]

end Registry

end StatsBoard
