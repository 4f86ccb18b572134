import StatsBoard.Proofs.History.Polling
import StatsBoard.Proofs.Panels
import StatsBoard.Proofs.Stream.Routing

/-!
# The order of panels while a session polls

The children of an aggregate are discovered by its answers and first drawn when no request for it is
outstanding any more; by then an answer for another aggregate may have discovered others. So the
panels follow the order of discovery among the aggregates and the children of one of them
(`Placed.ordered`), which every step keeps (`PollState.placed_of_run`).
-/

namespace StatsBoard

/-- An aggregate, or a child of the given one. -/
def EntityKind.isWithin (kind : EntityKind) (aggregate : String) : Bool :=
  kind.parent?.all (· == aggregate)

namespace Registry

variable {registry : Registry} {aggregate entity id : String} {kind : EntityKind}
  {record : EntityRecord} {ranges : Ranges} {metric : Metric}

/-- The aggregates and the children of the given one, in the order of discovery. -/
def idsWithin (registry : Registry) (aggregate : String) : List String :=
  (registry.records.filter (·.kind.isWithin aggregate)).map (·.id)

/-- The entities in the order of discovery, each with what it is. -/
def entities (registry : Registry) : List (String × EntityKind) :=
  registry.records.map fun record => (record.id, record.kind)

/-- Those within an aggregate are seen from what the entities are. -/
theorem ids_within_eq : registry.idsWithin aggregate =
    (registry.entities.filter (·.2.isWithin aggregate)).map (·.1) := by
  rw [entities, List.filter_map, List.map_map]
  rfl

/-- The identifiers are those of the entities. -/
theorem ids_eq_entities : registry.ids = registry.entities.map (·.1) := by
  rw [entities, List.map_map]
  rfl

/-- No entity within an aggregate is listed twice. -/
theorem nodup_ids_within (hnodup : registry.ids.Nodup) : (registry.idsWithin aggregate).Nodup :=
  hnodup.sublist (List.filter_sublist.map _)

/-- If all entities stand within an aggregate, then those within it are all. -/
theorem ids_within_of_all (h : ∀ record ∈ registry.records, record.kind.isWithin aggregate) :
    registry.idsWithin aggregate = registry.ids := by
  rw [idsWithin, List.filter_eq_self.mpr h, ids]

/-- A record is found within an aggregate exactly if its kind says so. -/
theorem contains_ids_within (hnodup : registry.ids.Nodup) (hrecord : record ∈ registry.records) :
    (registry.idsWithin aggregate).contains record.id = record.kind.isWithin aggregate := by
  rw [Bool.eq_iff_iff, List.contains_iff_mem]
  constructor
  · intro hmem
    obtain ⟨other, hother, hsame⟩ := List.mem_map.mp hmem
    obtain ⟨hother, hwithin⟩ := List.mem_filter.mp hother
    obtain rfl := List.inj_on_of_nodup_map hnodup hother hrecord hsame
    exact hwithin
  · exact fun hwithin => List.mem_map_of_mem (List.mem_filter.mpr ⟨hrecord, hwithin⟩)

/-! ## What an answer discovers -/

/-- A change that leaves the identity of records alone leaves the list of the entities alone. -/
theorem entities_modify {change : EntityRecord → EntityRecord}
    (h : ∀ record, (change record).id = record.id ∧ (change record).kind = record.kind) :
    (registry.modify id change).entities = registry.entities :=
  map_records_modify fun record => Prod.ext (h record).1 (h record).2

/-- An unknown entity is listed after the others when it is enlisted. -/
theorem entities_enlist : (registry.enlist id kind).entities =
    if registry.contains id then registry.entities else registry.entities ++ [(id, kind)] := by
  cases hknown : registry.contains id with
  | true =>
      have hensure : registry.ensure id kind = registry := by rw [ensure, hknown, if_pos rfl]
      rw [if_pos rfl, enlist, hensure]
      exact entities_modify fun _ => ⟨rfl, rfl⟩
  | false =>
      rw [if_neg Bool.false_ne_true]
      exact map_records_enlist (fun _ => rfl) hknown

/-- A part of an answer with samples of an unknown entity lists it after the others. -/
theorem entities_receive (values : List Json) :
    (registry.receive ranges metric (.samples id kind values)).entities =
      if registry.contains id then registry.entities
      else registry.entities ++ [(id, kind)] := by
  rw [receive, entities_modify, entities_enlist]
  exact fun _ => ⟨rfl, rfl⟩

/-- Samples of an unknown entity under an aggregate reach a series, if they are of a metric of the
aggregate. -/
theorem reached?_of_unknown (hunknown : registry.contains id = false)
    (howned : OwnedBy entity id kind)
    (hmetric : metric ∈ registry.layout.metricsFor (.ofAggregate entity)) (values : List Json) :
    registry.reached? metric (.samples id kind values) = some id := by
  have hnone : registry.get? id = none := by
    rwa [contains_eq_is_some, Option.isSome_eq_false_iff, Option.isNone_iff_eq_none] at hunknown
  have htracks : (registry.ensure id kind).tracks id metric := by
    rw [tracks, get?_ensure, if_pos rfl, hnone, Option.getD_none, Option.map_some,
      Option.getD_some, EntityRecord.tracks_iff, EntityRecord.metrics_fresh, howned.family_eq]
    exact hmetric
  rw [reached?, htracks, if_pos rfl]

/-- An answer for a known aggregate lists entities after the others: children of the aggregate, each
of which it touches. -/
theorem entities_receive_all {shares : List Share} (hentity : registry.contains entity)
    (hshares : ∀ share ∈ shares, share.IsUnder entity)
    (hmetric : metric ∈ registry.layout.metricsFor (.ofAggregate entity)) :
    ∃ found : List (String × EntityKind),
      (registry.receiveAll ranges entity metric shares).registry.entities =
        registry.entities ++ found ∧
      ∀ child ∈ found, child.2.parent? = some entity ∧
        child.1 ∈ (registry.receiveAll ranges entity metric shares).touched := by
  induction shares using List.reverseRecOn with
  | nil => exact ⟨[], (List.append_nil _).symm, List.forall_mem_nil _⟩
  | append_singleton shares share ih =>
      rw [List.forall_mem_append, List.forall_mem_singleton] at hshares
      obtain ⟨found, hfound, hchildren⟩ := ih hshares.1
      rw [registry_receive_all] at hfound
      rw [registry_receive_all, List.foldl_concat, touched_receive_all_concat]
      have hearlier : ∀ child ∈ found, child.2.parent? = some entity ∧
          child.1 ∈ (registry.receiveAll ranges entity metric shares).touched ++
            ((shares.foldl (receive ranges metric) registry).reached? metric share).toList :=
        fun child hchild => (hchildren child hchild).imp_right (List.mem_append_left _)
      cases share with
      | skipped key => exact ⟨found, hfound, hearlier⟩
      | samples id kind values =>
          rw [entities_receive, hfound]
          cases hknown : (shares.foldl (receive ranges metric) registry).contains id with
          | true => exact ⟨found, rfl, hearlier⟩
          | false =>
              have howned : OwnedBy entity id kind := hshares.2 id kind values rfl
              rw [← layout_foldl_receive shares] at hmetric
              have hreached := reached?_of_unknown hknown howned hmetric values
              refine ⟨found ++ [(id, kind)], by simp, ?_⟩
              rw [List.forall_mem_append, List.forall_mem_singleton]
              refine ⟨hearlier, ?_, ?_⟩
              · cases howned with
                | itself =>
                    -- The aggregate itself is known.
                    rw [Bool.eq_false_iff, ne_eq, contains_foldl_receive] at hknown
                    exact absurd (Or.inl hentity) hknown
                | child key => rfl
              · rw [hreached]
                exact List.mem_append_right _ (List.mem_singleton_self _)

/-- The end of a request for a known aggregate lists children of the aggregate after the others, and
touches each of them. -/
theorem entities_complete (ranges : Ranges) {request : FetchRequest}
    (hentity : registry.contains request.entity)
    (hmetric : request.metric ∈ registry.layout.metricsFor (.ofAggregate request.entity))
    (result : FetchResult) :
    ∃ found : List (String × EntityKind),
      (registry.complete ranges request result).registry.entities = registry.entities ++ found ∧
      ∀ child ∈ found, child.2.parent? = some request.entity ∧
        child.1 ∈ (registry.complete ranges request result).touched := by
  cases result with
  | error => exact ⟨[], (List.append_nil _).symm, List.forall_mem_nil _⟩
  | ok response =>
      have hunder : ∀ share ∈ FetchResult.shares request.entity (.ok response),
          share.IsUnder request.entity := fun _ => FetchResult.is_under_of_mem_shares
      exact entities_receive_all hentity hunder hmetric

end Registry

/-! ## Panels of registered entities -/

namespace Engine

variable {engine : Engine} {settings : Settings} {request : FetchRequest} {entity id : String}

/-- Only registered entities have panels, and those without one wait to be drawn; the aggregates
have panels from the start. Among the aggregates and the children of one of them, the panels are
those of the first to be discovered, in their order. -/
structure Placed (settings : Settings) (engine : Engine) : Prop where
  sound : engine.Sound settings
  registered : ∀ id ∈ engine.panels, id ∈ engine.registry.ids
  waiting : ∀ id ∈ engine.registry.ids, id ∈ engine.panels ∨ id ∈ engine.redraw.pending
  aggregates : ∀ entity ∈ engine.registry.entities, entity.2.parent? = none →
    entity.1 ∈ engine.panels
  names : ∀ name ∈ configured settings, name ∈ engine.panels
  ordered : ∀ aggregate, engine.panels.filter (engine.registry.idsWithin aggregate).contains <+:
    engine.registry.idsWithin aggregate

/-- If all registered entities have panels, in the order of discovery, then so they have within each
aggregate. -/
theorem ordered_of_panels_eq (hnodup : engine.registry.ids.Nodup)
    (hpanels : engine.panels = engine.registry.ids) (aggregate : String) :
    engine.panels.filter (engine.registry.idsWithin aggregate).contains <+:
      engine.registry.idsWithin aggregate := by
  have hall : engine.registry.ids.filter (engine.registry.idsWithin aggregate).contains =
      engine.registry.idsWithin aggregate := by
    rw [Registry.ids, List.filter_map, Registry.idsWithin]
    refine congrArg (List.map _) (List.filter_congr fun record hrecord => ?_)
    exact Registry.contains_ids_within hnodup hrecord
  rewrite [hpanels, hall]
  exact List.prefix_refl _

/-- Once the configured aggregates are wired, all entities are placed. -/
theorem Placed.wire_configured (settings : Settings) :
    (new settings).wireConfigured.Placed settings := by
  have hpanels := panels_wire_configured settings
  have hsound := Sound.wire_configured settings
  constructor
  case sound => exact hsound
  case registered => exact fun id hid => hpanels ▸ hid
  case waiting => exact fun id hid => Or.inl (hpanels ▸ hid)
  case aggregates =>
    intro entity hentity _
    rw [hpanels, Registry.ids_eq_entities]
    exact List.mem_map_of_mem hentity
  case names =>
    intro name hname
    rw [hpanels, ids_wire_configured, List.mem_eraseDups]
    exact hname
  case ordered => exact ordered_of_panels_eq hsound.orderly.nodup hpanels

/-- Requests that are made leave all entities placed. -/
theorem Placed.plan_fetches (h : engine.Placed settings) : engine.planFetches.Placed settings where
  sound := ⟨h.sound.settings_eq, h.sound.layout_eq, h.sound.orderly, h.sound.waiting⟩
  registered := h.registered
  waiting := h.waiting
  aggregates := h.aggregates
  names := h.names
  ordered := h.ordered

/-- Children that are listed after the others and wait to be drawn leave all entities placed. -/
theorem Placed.of_found {after : Engine} (h : engine.Placed settings)
    (hsound : after.Sound settings) (hpanels : after.panels = engine.panels)
    {found : List (String × EntityKind)}
    (hentities : after.registry.entities = engine.registry.entities ++ found)
    (hchildren : ∀ child ∈ found, child.2.parent? ≠ none)
    (hfound : ∀ child ∈ found, child.1 ∈ after.redraw.pending)
    (hpending : ∀ id ∈ engine.redraw.pending, id ∈ after.redraw.pending) :
    after.Placed settings := by
  have hids : after.registry.ids = engine.registry.ids ++ found.map (·.1) := by
    rw [Registry.ids_eq_entities, hentities, List.map_append, ← Registry.ids_eq_entities]
  have hnodup := hsound.orderly.nodup
  rw [hids] at hnodup
  constructor
  case sound => exact hsound
  case registered =>
    intro id hid
    rw [hids]
    exact List.mem_append_left _ (h.registered id (hpanels ▸ hid))
  case waiting =>
    intro id hid
    rw [hids, List.mem_append] at hid
    rcases hid with hold | hnew
    · rw [hpanels]
      exact (h.waiting id hold).imp_right (hpending id)
    · obtain ⟨child, hchild, rfl⟩ := List.mem_map.mp hnew
      exact Or.inr (hfound child hchild)
  case aggregates =>
    intro entity hentity hparent
    rw [hentities, List.mem_append] at hentity
    rcases hentity with hold | hnew
    · exact hpanels ▸ h.aggregates entity hold hparent
    · exact absurd hparent (hchildren entity hnew)
  case names => exact fun name hname => hpanels ▸ h.names name hname
  case ordered =>
    intro aggregate
    have hwithin : after.registry.idsWithin aggregate = engine.registry.idsWithin aggregate ++
        (found.filter (·.2.isWithin aggregate)).map (·.1) := by
      rw [Registry.ids_within_eq, hentities, List.filter_append, List.map_append,
        ← Registry.ids_within_eq]
    -- What was found has no panel yet, so the same panels count as before.
    have hsame : engine.panels.filter (after.registry.idsWithin aggregate).contains =
        engine.panels.filter (engine.registry.idsWithin aggregate).contains := by
      refine List.filter_congr fun id hid => ?_
      rw [hwithin, List.contains_append, Bool.or_eq_left_iff_imp, List.contains_iff_mem]
      intro hnew
      obtain ⟨child, hchild, rfl⟩ := List.mem_map.mp hnew
      have hlisted := List.mem_map_of_mem (f := (·.1)) (List.mem_filter.mp hchild).1
      exact absurd rfl ((List.nodup_append.mp hnodup).2.2 _ (h.registered _ hid) _ hlisted)
    rw [hpanels, hsame, hwithin]
    exact (h.ordered aggregate).trans (List.prefix_append ..)

/-- What a request ended with adds children of its aggregate after the others, and they wait to be
drawn. -/
theorem Placed.store (h : engine.Placed settings) (hentity : request.entity ∈ configured settings)
    (hmetric : request.metric ∈ settings.layout.metricsFor (.ofAggregate request.entity))
    (result : FetchResult) : (engine.store request result).Placed settings := by
  have hknown : engine.registry.contains request.entity :=
    Registry.contains_iff_mem_ids.mpr (h.registered _ (h.names _ hentity))
  rw [← h.sound.layout_eq] at hmetric
  obtain ⟨found, hentities, hfound⟩ :=
    Registry.entities_complete engine.settings.ranges hknown hmetric result
  refine h.of_found (h.sound.store hentity result) rfl hentities ?_ ?_ ?_
  · intro child hchild hnone
    rw [(hfound child hchild).1] at hnone
    cases hnone
  · intro child hchild
    exact (Redraw.mem_pending_foldl_mark _).mpr (Or.inr (hfound child hchild).2)
  · intro id hid
    exact (Redraw.mem_pending_foldl_mark _).mpr (Or.inl hid)

/-- A registered entity without a panel is a child of some aggregate and waits to be drawn. -/
theorem Placed.child_of_no_panel (h : engine.Placed settings) {record : EntityRecord}
    (hrecord : record ∈ engine.registry.records) (hpanel : record.id ∉ engine.panels) :
    record.id ∈ engine.redraw.pending ∧ record.id ∉ configured settings ∧
      ∃ parent, record.kind.parent? = some parent := by
  refine ⟨?waits, fun hname => hpanel (h.names _ hname), ?child⟩
  case waits => exact (h.waiting _ (List.mem_map_of_mem hrecord)).resolve_left hpanel
  case child =>
    rw [← Option.ne_none_iff_exists']
    exact fun hnone => hpanel (h.aggregates _ (List.mem_map_of_mem hrecord) hnone)

/-- Of what is drawn with the last request for an aggregate, the entities without a panel are all
those within the aggregate that have none, in the order of discovery. -/
theorem Placed.due_without_panel (h : engine.Placed settings)
    (hentity : entity ∈ configured settings) :
    ((engine.redraw.due engine.registry (·.belongsTo entity)).map (·.id)).filter
        (!engine.panels.contains ·) =
      (engine.registry.idsWithin entity).filter (!engine.panels.contains ·) := by
  rw [Redraw.due, Registry.idsWithin, List.filter_map, List.filter_map, List.filter_filter,
    List.filter_filter]
  refine congrArg (List.map _) (List.filter_congr fun record hrecord => ?_)
  rw [Function.comp_apply]
  cases hpanel : engine.panels.contains record.id with
  | true => rfl
  | false =>
      rw [Bool.eq_false_iff, ne_eq, List.contains_iff_mem] at hpanel
      obtain ⟨hwaits, hname, parent, hparent⟩ := h.child_of_no_panel hrecord hpanel
      have hother : (record.id == entity) = false := by
        rw [beq_eq_false_iff_ne]
        rintro rfl
        exact hname hentity
      rw [List.contains_iff_mem.mpr hwaits, EntityRecord.belongsTo, hother, hparent,
        EntityKind.isWithin, hparent]
      rfl

/-- A child of one aggregate does not stand within another. -/
theorem Placed.not_within_other (h : engine.Placed settings) {aggregate : String}
    (hother : aggregate ≠ entity)
    (hid : id ∈ (engine.registry.idsWithin entity).filter (!engine.panels.contains ·)) :
    (engine.registry.idsWithin aggregate).contains id = false := by
  rw [List.mem_filter, Bool.not_eq_true', Bool.eq_false_iff, ne_eq, List.contains_iff_mem] at hid
  obtain ⟨hwithin, hpanel⟩ := hid
  obtain ⟨record, hrecord, rfl⟩ := List.mem_map.mp hwithin
  obtain ⟨hrecord, hkind⟩ := List.mem_filter.mp hrecord
  obtain ⟨-, -, parent, hparent⟩ := h.child_of_no_panel hrecord hpanel
  rw [EntityKind.isWithin, hparent, Option.all_some, beq_iff_eq] at hkind
  rw [Registry.contains_ids_within h.sound.orderly.nodup hrecord, EntityKind.isWithin, hparent,
    Option.all_some, hkind, beq_eq_false_iff_ne]
  exact hother.symm

/-- What is drawn with the last request for an aggregate gets panels after the others: all within
the aggregate that had none. -/
theorem Placed.panels_flush_under (h : engine.Placed settings)
    (hentity : entity ∈ configured settings) :
    (engine.flushWhere (·.belongsTo entity)).panels = engine.panels ++
      (engine.registry.idsWithin entity).filter (!engine.panels.contains ·) := by
  rw [panels_of_nodup frames_flush_where (nodup_due h.sound.orderly.nodup),
    h.due_without_panel hentity]

/-- Panels go on following the order of discovery when those within one aggregate get theirs. -/
theorem Placed.ordered_append (h : engine.Placed settings) (entity aggregate : String) :
    (engine.panels ++ (engine.registry.idsWithin entity).filter
        (!engine.panels.contains ·)).filter (engine.registry.idsWithin aggregate).contains <+:
      engine.registry.idsWithin aggregate := by
  rw [List.filter_append]
  by_cases hsame : aggregate = entity
  · subst hsame
    have hall : ((engine.registry.idsWithin aggregate).filter (!engine.panels.contains ·)).filter
        (engine.registry.idsWithin aggregate).contains =
          (engine.registry.idsWithin aggregate).filter (!engine.panels.contains ·) := by
      rw [List.filter_eq_self]
      exact fun id hid => List.contains_iff_mem.mpr (List.mem_filter.mp hid).1
    rewrite [hall, filter_append_missing (Registry.nodup_ids_within h.sound.orderly.nodup)
      (h.ordered aggregate)]
    exact List.prefix_refl _
  · have hnone : ((engine.registry.idsWithin entity).filter (!engine.panels.contains ·)).filter
        (engine.registry.idsWithin aggregate).contains = [] := by
      rw [List.filter_eq_nil_iff]
      intro id hid
      rw [h.not_within_other hsame hid]
      exact Bool.false_ne_true
    rw [hnone, List.append_nil]
    exact h.ordered aggregate

/-- What is drawn with the last request for an aggregate leaves all entities placed. -/
theorem Placed.flush_under (h : engine.Placed settings) (hentity : entity ∈ configured settings) :
    (engine.flushWhere (·.belongsTo entity)).Placed settings := by
  have hpanels := h.panels_flush_under hentity
  constructor
  case sound => exact h.sound.flush_where _
  case registered =>
    intro id hid
    rw [hpanels, List.mem_append] at hid
    rcases hid with hold | hnew
    · exact h.registered id hold
    · obtain ⟨record, hrecord, rfl⟩ := List.mem_map.mp (List.mem_filter.mp hnew).1
      exact List.mem_map_of_mem (List.mem_filter.mp hrecord).1
  case waiting =>
    intro id hid
    by_cases hpanel : id ∈ (engine.flushWhere (·.belongsTo entity)).panels
    · exact Or.inl hpanel
    · rw [panels_of_drawn frames_flush_where, List.mem_eraseDups, List.mem_append, not_or] at hpanel
      obtain ⟨hold, hdrawn⟩ := hpanel
      refine Or.inr (mem_pending_flush_where.mpr ⟨(h.waiting id hid).resolve_left hold, ?_⟩)
      rintro record hrecord rfl
      exact hdrawn (List.mem_map_of_mem hrecord)
  case aggregates =>
    intro child hchild hparent
    rw [hpanels]
    exact List.mem_append_left _ (h.aggregates child hchild hparent)
  case names =>
    intro name hname
    rw [hpanels]
    exact List.mem_append_left _ (h.names name hname)
  case ordered =>
    intro aggregate
    rw [hpanels]
    exact h.ordered_append entity aggregate

/-- The end of a request leaves all entities placed. -/
theorem Placed.handle_fetched (h : engine.Placed settings)
    (hentity : request.entity ∈ configured settings)
    (hmetric : request.metric ∈ settings.layout.metricsFor (.ofAggregate request.entity))
    (result : FetchResult) : (engine.handleFetched request result).Placed settings := by
  have hstored := h.store hentity hmetric result
  cases hidle : (engine.plan.settle request result.answered).idle request.entity with
  | true =>
      rw [handle_fetched_of_idle hidle]
      exact hstored.flush_under hentity
  | false => rwa [handle_fetched_of_busy hidle]

end Engine

namespace PollState

variable {settings : Settings} {calls : List PollCall} {state : PollState}

/-- Every run leaves all entities placed. -/
theorem placed_of_run (hmode : settings.mode = .pull)
    (h : (start settings).run? calls = some state) : state.engine.Placed settings := by
  induction h using run_induction with
  | start => exact .wire_configured settings
  | plan calls before hrun ih => exact ih.plan_fetches
  | complete calls before request result hrun hrequest ih =>
      obtain ⟨hentity, hmetric⟩ := configured_of_outstanding hmode hrun hrequest
      exact ih.handle_fetched hentity hmetric result

end PollState

end StatsBoard
