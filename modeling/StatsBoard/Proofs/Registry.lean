import Mathlib.Data.List.Nodup
import StatsBoard.Registry

/-!
# Lookups in the registry

What each operation on the registry does to the record under each identifier. Two registries with
the same records under every identifier hold the same records, though perhaps in another order:
`Registry.perm_of_get?_eq`.
-/

namespace StatsBoard

/-! ## Records -/

namespace EntityRecord

variable {record : EntityRecord} {metric other : Metric} {change second : Series → Series}

@[simp] theorem id_modify_series : (record.modifySeries metric change).id = record.id := rfl

@[simp] theorem kind_modify_series : (record.modifySeries metric change).kind = record.kind := rfl

@[simp] theorem subscribed_modify_series :
    (record.modifySeries metric change).subscribed = record.subscribed := rfl

@[simp] theorem id_mark_subscribed : record.markSubscribed.id = record.id := rfl

@[simp] theorem kind_mark_subscribed : record.markSubscribed.kind = record.kind := rfl

@[simp] theorem subscribed_mark_subscribed : record.markSubscribed.subscribed = true := rfl

@[simp] theorem metrics_mark_subscribed : record.markSubscribed.metrics = record.metrics := rfl

@[simp] theorem series?_mark_subscribed :
    record.markSubscribed.series? metric = record.series? metric := rfl

@[simp] theorem id_fresh (layout : SeriesLayout) (id : String) (kind : EntityKind) :
    (fresh layout id kind).id = id := rfl

@[simp] theorem kind_fresh (layout : SeriesLayout) (id : String) (kind : EntityKind) :
    (fresh layout id kind).kind = kind := rfl

/-- A new record has a series for each metric of its family. -/
@[simp] theorem metrics_fresh (layout : SeriesLayout) (id : String) (kind : EntityKind) :
    (fresh layout id kind).metrics = layout.metricsFor kind.family := by
  simp [metrics, fresh, Function.comp_def]

/-- The series of a new record are new. -/
theorem series?_fresh {layout : SeriesLayout} {id : String} {kind : EntityKind}
    (h : metric ∈ layout.metricsFor kind.family) :
    (fresh layout id kind).series? metric = some layout.freshSeries := by
  have hfound : ((layout.metricsFor kind.family).find? (· == metric)).isSome := by
    simpa [List.find?_isSome] using h
  obtain ⟨found, hfound⟩ := Option.isSome_iff_exists.mp hfound
  rw [series?, fresh, List.find?_map]
  show (((layout.metricsFor kind.family).find? (· == metric)).map _).map _ = _
  rw [hfound]
  rfl

/-- Changing a series does not change the metrics of a list of series. -/
theorem map_fst_modify_first (series : List (Metric × Series)) :
    (modifyFirst metric change series).map (·.1) = series.map (·.1) := by
  induction series with
  | nil => rfl
  | cons first rest ih =>
      rw [modifyFirst]
      split <;> simp [ih]

/-- Changing a series does not change the metrics of a record. -/
@[simp] theorem metrics_modify_series :
    (record.modifySeries metric change).metrics = record.metrics :=
  map_fst_modify_first record.series

/-- A change reaches the first series of its metric, and no series of another. -/
theorem find?_modify_first (series : List (Metric × Series)) :
    ((modifyFirst metric change series).find? (·.1 == other)).map (·.2) =
      if other = metric then ((series.find? (·.1 == other)).map (·.2)).map change
      else (series.find? (·.1 == other)).map (·.2) := by
  induction series with
  | nil => simp [modifyFirst]
  | cons first rest ih =>
      obtain ⟨m, s⟩ := first
      rw [modifyFirst]
      by_cases ho : m = other
      · subst ho
        split <;> simp_all
      · by_cases hm : m = metric
        · have hother : other ≠ metric := fun h => ho (hm.trans h.symm)
          simp [hm, hother, hother.symm]
        · simpa [hm, ho] using ih

/-- A change reaches the series of its metric, and no series of another. -/
theorem series?_modify_series :
    (record.modifySeries metric change).series? other =
      if other = metric then (record.series? other).map change else record.series? other :=
  find?_modify_first record.series

/-- Changes of series of different metrics in a list can be made in either order. -/
theorem modify_first_comm (h : metric ≠ other) (series : List (Metric × Series)) :
    modifyFirst other second (modifyFirst metric change series) =
      modifyFirst metric change (modifyFirst other second series) := by
  induction series with
  | nil => rfl
  | cons first rest ih =>
      obtain ⟨m, s⟩ := first
      by_cases hm : m = metric
      · subst hm
        simp [modifyFirst, h]
      · by_cases ho : m = other
        · subst ho
          simp [modifyFirst, hm]
        · simp [modifyFirst, hm, ho, ih]

/-- Changes of series of different metrics can be made in either order. -/
theorem modify_series_comm (h : metric ≠ other) :
    (record.modifySeries metric change).modifySeries other second =
      (record.modifySeries other second).modifySeries metric change := by
  simp only [modifySeries, modify_first_comm h]

/-- A record has a series for exactly the metrics that it lists. -/
theorem tracks_iff : record.tracks metric ↔ metric ∈ record.metrics := by
  simp [tracks, metrics]

end EntityRecord

/-! ## The registry -/

namespace Registry

variable {registry : Registry} {id other : String} {kind : EntityKind} {record : EntityRecord}

/-- A record is found under its own identifier. -/
theorem id_of_get? (h : registry.get? id = some record) : record.id = id := by
  simpa using List.find?_some h

/-- A record that is found is one of the registry. -/
theorem mem_of_get? (h : registry.get? id = some record) : record ∈ registry.records :=
  List.mem_of_find?_eq_some h

/-- An entity is registered exactly if it has a record. -/
theorem contains_eq_is_some : registry.contains id = (registry.get? id).isSome := by
  rw [contains, get?, List.isSome_find?]

/-- An entity is registered exactly if it is listed. -/
theorem contains_iff_mem_ids : registry.contains id ↔ id ∈ registry.ids := by
  simp [contains, ids]

/-- Where identifiers are unique, each record is found under its own. -/
theorem get?_of_mem (hnodup : registry.ids.Nodup) (h : record ∈ registry.records) :
    registry.get? record.id = some record := by
  cases hfound : registry.get? record.id with
  | none =>
      have hnone := List.find?_eq_none.mp hfound record h
      simp at hnone
  | some found =>
      rw [List.inj_on_of_nodup_map hnodup (mem_of_get? hfound) h (id_of_get? hfound)]

/-- Where identifiers are unique, the records are those that are found under theirs. -/
theorem mem_records_iff (hnodup : registry.ids.Nodup) :
    record ∈ registry.records ↔ registry.get? record.id = some record :=
  ⟨get?_of_mem hnodup, mem_of_get?⟩

/-- Registering an entity adds a new record under its identifier, unless there is one. -/
theorem get?_ensure :
    (registry.ensure id kind).get? other =
      if other = id then some ((registry.get? id).getD (.fresh registry.layout id kind))
      else registry.get? other := by
  unfold ensure
  split
  next hknown =>
    rw [contains_eq_is_some] at hknown
    obtain ⟨record, hrecord⟩ := Option.isSome_iff_exists.mp hknown
    by_cases hother : other = id <;> simp [hother, hrecord]
  next hnew =>
    rw [contains_eq_is_some, Option.not_isSome_iff_eq_none] at hnew
    by_cases hother : other = id
    · subst hother
      simp_all [get?, EntityRecord.fresh]
    · simp [get?, hother, EntityRecord.fresh, eq_comm (a := id)]

/-- A change reaches the record under its identifier, and no other. -/
theorem get?_modify {change : EntityRecord → EntityRecord}
    (hid : ∀ record, (change record).id = record.id) :
    (registry.modify id change).get? other =
      if other = id then (registry.get? other).map change else registry.get? other := by
  -- Changes keep identifiers, so the record that is found stands where it stood before.
  have hkeeps : (fun record => (if record.id == id then change record else record).id == other) =
      fun record : EntityRecord => record.id == other := by
    funext record
    split <;> simp [hid]
  rw [modify, get?, List.find?_map, Function.comp_def, hkeeps, ← get?]
  cases hfound : registry.get? other with
  | none => simp
  | some record =>
      rw [Option.map_some, id_of_get? hfound]
      by_cases hother : other = id <;> simp [hother]

@[simp] theorem layout_ensure : (registry.ensure id kind).layout = registry.layout := by
  unfold ensure
  split <;> rfl

@[simp] theorem layout_modify {change : EntityRecord → EntityRecord} :
    (registry.modify id change).layout = registry.layout := rfl

/-- Registering an entity lists it at the end, unless it is listed. -/
theorem ids_ensure :
    (registry.ensure id kind).ids =
      if registry.contains id then registry.ids else registry.ids ++ [id] := by
  unfold ensure
  split <;> simp [ids, EntityRecord.fresh]

/-- A change of a record does not change the list of identifiers. -/
theorem ids_modify {change : EntityRecord → EntityRecord}
    (hid : ∀ record, (change record).id = record.id) :
    (registry.modify id change).ids = registry.ids := by
  rw [ids, modify, List.map_map]
  refine List.map_congr_left fun record _ => ?_
  rw [Function.comp_apply]
  split
  · exact hid record
  · rfl

/-- Registering an entity keeps identifiers unique. -/
theorem nodup_ensure (h : registry.ids.Nodup) : (registry.ensure id kind).ids.Nodup := by
  rw [ids_ensure]
  split
  next => exact h
  next hnew =>
    rw [contains_iff_mem_ids] at hnew
    refine List.nodup_append.mpr ⟨h, List.nodup_singleton id, ?_⟩
    rintro other hother _ hlast rfl
    exact hnew (List.mem_singleton.mp hlast ▸ hother)

/-- Registries with the same records under every identifier hold the same records. -/
theorem perm_of_get?_eq {first second : Registry} (hfirst : first.ids.Nodup)
    (hsecond : second.ids.Nodup) (h : ∀ id, first.get? id = second.get? id) :
    first.records.Perm second.records := by
  rw [List.perm_ext_iff_of_nodup hfirst.of_map hsecond.of_map]
  intro record
  rw [mem_records_iff hfirst, mem_records_iff hsecond, h]

end Registry

end StatsBoard
