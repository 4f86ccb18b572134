import Mathlib.Data.List.Induction
import StatsBoard.History.Plan
import StatsBoard.Proofs.Entity
import StatsBoard.Proofs.Registry

/-!
# What an answer does to the registry

An answer is stored part by part. What that does to the record under one identifier depends on the
parts for that identifier alone: `Registry.get?_foldl_receive`. In a registry that holds nothing
but polled aggregates and their children, every list of samples reaches a series:
`Registry.Orderly.touched_complete`.
-/

namespace StatsBoard

/-- The parts of what a request ended with; a failure has none. -/
def FetchResult.shares (entity : String) : FetchResult → List Share
  | .ok response => response.shares entity
  | .error _ => []

/-- Store a list of samples of a metric in a record. -/
def EntityRecord.receive (ranges : Ranges) (metric : Metric) (values : List Json)
    (record : EntityRecord) : EntityRecord :=
  record.markSubscribed.modifySeries metric (·.extend (ranges.samples metric values))

namespace Share

/-- The entity for which a part of an answer has samples. -/
def target? : Share → Option String
  | samples id _ _ => some id
  | skipped _ => none

/-- What a part of an answer makes of the record under an identifier. -/
def reach (ranges : Ranges) (metric : Metric) (layout : SeriesLayout) (id : String)
    (found : Option EntityRecord) : Share → Option EntityRecord
  | samples target kind values =>
    if id = target then some ((found.getD (.fresh layout id kind)).receive ranges metric values)
    else found
  | skipped _ => found

/-- A part of an answer is for entities that stand under an aggregate. -/
def IsUnder (aggregate : String) (share : Share) : Prop :=
  ∀ id kind values, share = samples id kind values → OwnedBy aggregate id kind

/-- Parts of an answer that are for other entities leave a record as it is. -/
theorem foldl_reach_of_not_mem {ranges : Ranges} {metric : Metric} {layout : SeriesLayout}
    {id : String} {found : Option EntityRecord} {shares : List Share}
    (h : id ∉ shares.filterMap target?) :
    shares.foldl (reach ranges metric layout id) found = found := by
  induction shares with
  | nil => rfl
  | cons share shares ih =>
      cases share with
      | skipped key => exact ih h
      | samples target kind values =>
          obtain ⟨htarget, hothers⟩ : id ≠ target ∧ id ∉ shares.filterMap target? :=
            not_or.mp (mt List.mem_cons.mpr h)
          rw [List.foldl_cons, reach, if_neg htarget]
          exact ih hothers

end Share

/-- The parts of an answer to a request for an aggregate are for entities under it. -/
theorem FetchResult.is_under_of_mem_shares {entity : String} {result : FetchResult} {share : Share}
    (h : share ∈ result.shares entity) : share.IsUnder entity := by
  rintro id kind values rfl
  cases result with
  | error => simp [shares] at h
  | ok response =>
      cases response with
      | samples list | info list =>
          obtain ⟨rfl, rfl, rfl⟩ : id = entity ∧ kind = .ofAggregate entity ∧ values = list := by
            simpa [shares, StatsResponse.shares] using h
          exact .itself
      | keyed members =>
          obtain ⟨⟨key, value⟩, _, hshare⟩ := List.mem_map.mp h
          cases value with
          | array list =>
              rw [Share.ofMember] at hshare
              split at hshare
              · cases hshare
                exact .itself
              · cases hshare
                exact .child key
          | _ => simp [Share.ofMember] at hshare

namespace EntityRecord

variable {ranges : Ranges} {metric other : Metric} {values more : List Json}
  {record : EntityRecord}

@[simp] theorem id_receive : (record.receive ranges metric values).id = record.id := rfl

@[simp] theorem kind_receive : (record.receive ranges metric values).kind = record.kind := rfl

@[simp] theorem metrics_receive :
    (record.receive ranges metric values).metrics = record.metrics := by
  simp [receive]

@[simp] theorem tracks_receive (tracked : Metric) :
    (record.receive ranges metric values).tracks tracked = record.tracks tracked := by
  rw [Bool.eq_iff_iff, tracks_iff, tracks_iff, metrics_receive]

/-- Samples of different metrics can be stored in either order. -/
theorem receive_comm (h : metric ≠ other) :
    (record.receive ranges metric values).receive ranges other more =
      (record.receive ranges other more).receive ranges metric values := by
  unfold receive
  exact @modify_series_comm record.markSubscribed metric other _ _ h

end EntityRecord

namespace Registry

variable {registry : Registry} {id other entity : String} {kind : EntityKind} {ranges : Ranges}
  {metric : Metric} {share : Share}

@[simp] theorem layout_enlist : (registry.enlist id kind).layout = registry.layout := by
  simp [enlist]

/-- Enlisting an entity marks its record, which is new if there was none. -/
theorem get?_enlist :
    (registry.enlist id kind).get? other =
      if other = id then
        some ((registry.get? id).getD (.fresh registry.layout id kind)).markSubscribed
      else registry.get? other := by
  rw [enlist, get?_modify, get?_ensure]
  · by_cases hother : other = id <;> simp [hother]
  · exact fun _ => rfl

/-- Enlisting an entity lists it at the end, unless it is listed. -/
theorem ids_enlist :
    (registry.enlist id kind).ids =
      if registry.contains id then registry.ids else registry.ids ++ [id] := by
  rw [enlist, ids_modify, ids_ensure]
  exact fun _ => rfl

/-- An enlisted entity is registered. -/
theorem mem_ids_enlist : id ∈ (registry.enlist id kind).ids := by
  rw [ids_enlist]
  split
  next hknown => exact contains_iff_mem_ids.mp hknown
  next => exact List.mem_append_right _ List.mem_cons_self

/-- Those that were registered before an entity is enlisted are listed as before. -/
theorem ids_prefix_enlist : registry.ids <+: (registry.enlist id kind).ids := by
  rw [ids_enlist]
  split
  · exact List.prefix_refl _
  · exact List.prefix_append ..

/-- The record of an entity that is not registered is added after the others. -/
theorem records_enlist (hnew : registry.contains id = false) :
    (registry.enlist id kind).records =
      registry.records ++ [(EntityRecord.fresh registry.layout id kind).markSubscribed] := by
  have hothers : ∀ record ∈ registry.records,
      (if record.id == id then record.markSubscribed else record) = record := by
    intro record hrecord
    have hid : ¬ record.id = id := by simpa using List.any_eq_false.mp hnew record hrecord
    simp [hid]
  rw [enlist, modify, ensure, hnew, if_neg Bool.false_ne_true, List.map_append, List.map_singleton,
    List.map_congr_left hothers, List.map_id']
  simp

/-- Enlisting an entity keeps identifiers unique. -/
theorem nodup_enlist (h : registry.ids.Nodup) : (registry.enlist id kind).ids.Nodup := by
  rw [enlist, ids_modify]
  · exact nodup_ensure h
  · exact fun _ => rfl

@[simp] theorem layout_receive :
    (registry.receive ranges metric share).layout = registry.layout := by
  cases share <;> simp [receive]

/-- A part of an answer changes the record under an identifier as `Share.reach` says. -/
theorem get?_receive :
    (registry.receive ranges metric share).get? id =
      share.reach ranges metric registry.layout id (registry.get? id) := by
  cases share with
  | skipped key => rfl
  | samples target kind values =>
      rw [receive, get?_modify, get?_enlist, Share.reach]
      · split
        next hid =>
          subst hid
          rfl
        next => rfl
      · exact fun _ => rfl

/-- Storing a part of an answer keeps identifiers unique. -/
theorem nodup_receive (h : registry.ids.Nodup) :
    (registry.receive ranges metric share).ids.Nodup := by
  cases share with
  | skipped key => exact h
  | samples target kind values =>
      rw [receive, ids_modify]
      · exact nodup_enlist h
      · exact fun _ => rfl

/-- A part of an answer registers the entity for which it has samples. -/
theorem contains_receive :
    (registry.receive ranges metric share).contains id ↔
      registry.contains id ∨ share.target? = some id := by
  rw [contains_eq_is_some, contains_eq_is_some, get?_receive]
  cases share with
  | skipped key => simp [Share.reach, Share.target?]
  | samples target kind values =>
      rw [Share.reach, Share.target?, Option.some.injEq]
      split
      next hid => simp [hid]
      next hid => simp [Ne.symm hid]

@[simp] theorem layout_foldl_receive (shares : List Share) :
    (shares.foldl (receive ranges metric) registry).layout = registry.layout := by
  induction shares generalizing registry with
  | nil => rfl
  | cons share shares ih => rw [List.foldl_cons, ih, layout_receive]

/-- Storing an answer does to the record under an identifier what its parts do one by one. -/
theorem get?_foldl_receive (shares : List Share) :
    (shares.foldl (receive ranges metric) registry).get? id =
      shares.foldl (Share.reach ranges metric registry.layout id) (registry.get? id) := by
  induction shares generalizing registry with
  | nil => rfl
  | cons share shares ih => rw [List.foldl_cons, List.foldl_cons, ih, get?_receive, layout_receive]

/-- Storing an answer registers the entities for which it has samples. -/
theorem contains_foldl_receive (shares : List Share) :
    (shares.foldl (receive ranges metric) registry).contains id ↔
      registry.contains id ∨ id ∈ shares.filterMap Share.target? := by
  induction shares generalizing registry with
  | nil => simp
  | cons share shares ih =>
      rw [List.foldl_cons, ih, contains_receive, or_assoc, List.mem_filterMap, List.mem_filterMap,
        List.exists_mem_cons_iff]

/-- An answer is stored part by part. -/
theorem registry_receive_all (shares : List Share) :
    (registry.receiveAll ranges entity metric shares).registry =
      shares.foldl (receive ranges metric) registry := by
  induction shares using List.reverseRecOn with
  | nil => rfl
  | append_singleton shares share ih =>
      rw [receiveAll, List.foldl_append, List.foldl_concat, ← ih]
      rfl

/-- The last part of an answer is the last to reach an entity. -/
theorem touched_receive_all_concat (shares : List Share) :
    (registry.receiveAll ranges entity metric (shares ++ [share])).touched =
      (registry.receiveAll ranges entity metric shares).touched ++
        ((shares.foldl (receive ranges metric) registry).reached? metric share).toList := by
  rw [← registry_receive_all shares, receiveAll, List.foldl_append]
  rfl

/-- The end of a request stores the parts of what it ended with. -/
theorem registry_complete (request : FetchRequest) (result : FetchResult) :
    (registry.complete ranges request result).registry =
      (result.shares request.entity).foldl (receive ranges request.metric) registry := by
  cases result with
  | error => rfl
  | ok response => exact registry_receive_all _

/-- The entities of an answer are found part by part. -/
theorem filter_map_target?_concat {shares : List Share} :
    (shares ++ [share]).filterMap Share.target? =
      shares.filterMap Share.target? ++ share.target?.toList := by
  rw [List.filterMap_append]
  cases share <;> rfl

/-- An entity that is registered keeps its metrics. -/
theorem tracks_receive (hknown : registry.contains id) :
    (registry.receive ranges metric share).tracks id metric = registry.tracks id metric := by
  obtain ⟨record, hrecord⟩ := Option.isSome_iff_exists.mp (contains_eq_is_some ▸ hknown)
  rw [tracks, tracks, get?_receive, hrecord]
  cases share with
  | skipped key => rfl
  | samples target kind values =>
      rw [Share.reach]
      split
      · simp
      · rfl

/-- A part of an answer reaches its entity exactly if that has a series for the metric. -/
theorem reached?_eq_filter : (registry.reached? metric share).toList =
    share.target?.toList.filter ((registry.receive ranges metric share).tracks · metric) := by
  cases share with
  | skipped key => rfl
  | samples id kind values =>
      have htracks : (registry.receive ranges metric (.samples id kind values)).tracks id metric =
          (registry.ensure id kind).tracks id metric := by
        rw [tracks, tracks, get?_receive, Share.reach, if_pos rfl, get?_ensure, if_pos rfl]
        simp
      rw [reached?, Share.target?, Option.toList_some, List.filter_singleton, htracks]
      cases (registry.ensure id kind).tracks id metric <;> rfl

/-- An answer touches those of its entities that have a series for the metric. -/
theorem touched_receive_all (shares : List Share) :
    (registry.receiveAll ranges entity metric shares).touched =
      (shares.filterMap Share.target?).filter
        ((shares.foldl (receive ranges metric) registry).tracks · metric) := by
  induction shares using List.reverseRecOn with
  | nil => rfl
  | append_singleton shares share ih =>
      rw [touched_receive_all_concat, ih, reached?_eq_filter, List.foldl_concat,
        filter_map_target?_concat, List.filter_append]
      refine congrArg (· ++ _) (List.filter_congr fun id hid => ?_)
      rw [tracks_receive (contains_foldl_receive shares |>.mpr (.inr hid))]

/-- The end of a request touches the entities for which it brought samples and that have a series
for the metric. -/
theorem touched_complete (request : FetchRequest) (result : FetchResult) :
    (registry.complete ranges request result).touched =
      ((result.shares request.entity).filterMap Share.target?).filter
        ((registry.complete ranges request result).registry.tracks · request.metric) := by
  rw [registry_complete]
  cases result with
  | error => rfl
  | ok response => exact touched_receive_all _

/-- The end of a request touches no entities but those for which it brought samples. -/
theorem mem_targets_of_touched {request : FetchRequest} {result : FetchResult}
    (h : id ∈ (registry.complete ranges request result).touched) :
    id ∈ (result.shares request.entity).filterMap Share.target? := by
  rw [touched_complete] at h
  exact (List.mem_filter.mp h).1

/-- The registry holds aggregates with given names and children under them, each once and with
the metrics of its family. -/
structure Orderly (names : List String) (registry : Registry) : Prop where
  nodup : registry.ids.Nodup
  owned : ∀ id record, registry.get? id = some record →
    ∃ aggregate ∈ names, OwnedBy aggregate id record.kind
  metrics : ∀ id record, registry.get? id = some record →
    record.metrics = registry.layout.metricsFor record.kind.family

variable {names : List String}

/-- A part of an answer for an aggregate keeps the registry orderly. -/
theorem Orderly.receive (h : registry.Orderly names) (hentity : entity ∈ names)
    (hshare : share.IsUnder entity) : (registry.receive ranges metric share).Orderly names := by
  cases share with
  | skipped key => exact h
  | samples target kind values =>
      have howned : OwnedBy entity target kind := hshare target kind values rfl
      have hlookup : ∀ id record,
          (registry.receive ranges metric (.samples target kind values)).get? id = some record →
          (∃ aggregate ∈ names, OwnedBy aggregate id record.kind) ∧
            record.metrics = registry.layout.metricsFor record.kind.family := by
        intro id record hrecord
        rw [get?_receive, Share.reach] at hrecord
        split at hrecord
        next hid =>
          subst hid
          cases hfound : registry.get? id with
          | none =>
              obtain rfl := Option.some.inj (hfound ▸ hrecord)
              exact ⟨⟨entity, hentity, howned⟩, by simp⟩
          | some found =>
              obtain rfl := Option.some.inj (hfound ▸ hrecord)
              exact ⟨h.owned id found hfound, by simpa using h.metrics id found hfound⟩
        next => exact ⟨h.owned id record hrecord, h.metrics id record hrecord⟩
      refine ⟨nodup_receive h.nodup, fun id record hrecord => (hlookup id record hrecord).1, ?_⟩
      intro id record hrecord
      rw [layout_receive]
      exact (hlookup id record hrecord).2

/-- An answer for an aggregate keeps the registry orderly. -/
theorem Orderly.foldl_receive {shares : List Share} (h : registry.Orderly names)
    (hentity : entity ∈ names) (hshares : ∀ share ∈ shares, share.IsUnder entity) :
    (shares.foldl (Registry.receive ranges metric) registry).Orderly names := by
  induction shares generalizing registry with
  | nil => exact h
  | cons share shares ih =>
      rw [List.forall_mem_cons] at hshares
      exact ih (h.receive hentity hshares.1) hshares.2

/-- What stands under an aggregate has the metrics of the aggregate. -/
theorem Orderly.tracks {kind : EntityKind} (h : registry.Orderly names)
    (hnames : Unambiguous names) (hentity : entity ∈ names) (howned : OwnedBy entity id kind)
    (hknown : registry.contains id)
    (hmetric : metric ∈ registry.layout.metricsFor (.ofAggregate entity)) :
    registry.tracks id metric := by
  obtain ⟨record, hrecord⟩ := Option.isSome_iff_exists.mp (contains_eq_is_some ▸ hknown)
  obtain ⟨aggregate, haggregate, hother⟩ := h.owned id record hrecord
  -- The record is of the same kind, as the identifier tells what the entity is.
  have hkind := (howned.unique hnames hentity haggregate hother).2
  rw [Registry.tracks, hrecord, Option.map_some, Option.getD_some, EntityRecord.tracks_iff,
    h.metrics id record hrecord, ← hkind, howned.family_eq]
  exact hmetric

/-- The end of a request for a metric that the aggregate has touches the entities for which it
brought samples. -/
theorem Orderly.touched_complete {request : FetchRequest} (h : registry.Orderly names)
    (hnames : Unambiguous names) (hentity : request.entity ∈ names)
    (hmetric : request.metric ∈ registry.layout.metricsFor (.ofAggregate request.entity))
    (result : FetchResult) :
    (registry.complete ranges request result).touched =
      (result.shares request.entity).filterMap Share.target? := by
  rw [Registry.touched_complete, registry_complete, List.filter_eq_self]
  intro id hid
  obtain ⟨share, hshare, htarget⟩ := List.mem_filterMap.mp hid
  cases share with
  | skipped key => cases htarget
  | samples target kind values =>
      obtain rfl := Option.some.inj htarget
      have howned := FetchResult.is_under_of_mem_shares hshare target kind values rfl
      have horderly : ((result.shares request.entity).foldl
          (Registry.receive ranges request.metric) registry).Orderly names :=
        h.foldl_receive hentity fun _ => FetchResult.is_under_of_mem_shares
      refine horderly.tracks hnames hentity howned ?_ ?_
      · exact (contains_foldl_receive _).mpr (.inr hid)
      · rwa [layout_foldl_receive]

end Registry

end StatsBoard
