import StatsBoard.Proofs.Display
import StatsBoard.Proofs.Stream.Announcements

/-!
# What is on display while a session listens

In a session that listens nothing waits to be drawn between events. Samples draw the entity to which
their stream leads, an announcement draws its arrivals, and nothing else is drawn
(`Routed.draws_handle_event`). So the frames can be read off the events, and each entity is seen as
it is: `drawn_by_events`.
-/

namespace StatsBoard

namespace Engine

variable {settings : Settings} {engine : Engine} {id : String} {kind : EntityKind}
  {entities : List (String × EntityKind)} {event : StreamEvent} {events : List StreamEvent}
  {population : Discovery}

/-! ## Wired entities wait to be drawn -/

/-- Wiring an entity draws nothing. -/
theorem frames_wire : (engine.wire id kind).frames = engine.frames := by
  cases hwired : engine.isWired id with
  | true => rw [wire_of_wired hwired]
  | false =>
      obtain ⟨_, _, _, hwire⟩ := wire_of_not_wired kind hwired
      rw [hwire, enlist]

/-- Wiring entities draws nothing. -/
theorem frames_wire_each (entities : List (String × EntityKind)) :
    (engine.wireEach entities).frames = engine.frames := by
  induction entities using List.reverseRecOn with
  | nil => rfl
  | append_singleton entities last ih => rw [wire_each_concat, frames_wire, ih]

/-- Once announced entities are wired, the newcomers wait to be drawn. -/
theorem Routed.pending_wire_each (h : engine.Routed settings)
    (hpending : engine.redraw.pending = [])
    (hentities : ∀ entity ∈ entities, Announced entity.1 entity.2) :
    (engine.wireEach entities).redraw.pending = (engine.newcomers entities).map (·.1) := by
  induction entities using List.reverseRecOn with
  | nil => exact hpending
  | append_singleton entities last ih =>
      rw [List.forall_mem_append] at hentities
      have hbefore := ih hentities.1
      have hknown := (h.wire_each hentities.1).listening.is_wired_eq last.1
      rw [h.contains_wire_each hentities.1] at hknown
      rw [wire_each_concat, newcomers_concat, ← hknown]
      cases hwired : (engine.wireEach entities).isWired last.1 with
      | true => rw [wire_of_wired hwired, if_pos rfl, hbefore]
      | false =>
          -- What waits is a newcomer among the others, and this entity is not one of them.
          have hnew : ((engine.newcomers entities).map (·.1)).contains last.1 = false := by
            rw [hwired, eq_comm, Bool.or_eq_false_iff] at hknown
            rw [contains_map_fst, any_newcomers, hknown.2, Bool.and_false]
          obtain ⟨_, _, _, hwire⟩ := wire_of_not_wired last.2 hwired
          rw [hwire, enlist, Redraw.mark, hbefore, hnew, if_neg Bool.false_ne_true,
            if_neg Bool.false_ne_true, List.map_append, List.map_singleton]

/-- Once announced entities are wired, a flush draws the newcomers. -/
theorem Routed.due_wire_each (h : engine.Routed settings) (hpending : engine.redraw.pending = [])
    (hentities : ∀ entity ∈ entities, Announced entity.1 entity.2) :
    (engine.wireEach entities).redraw.due (engine.wireEach entities).registry (fun _ => true) =
      wiredRecords settings (engine.newcomers entities) := by
  have hwaits (id : String) : (engine.wireEach entities).redraw.pending.contains id =
      (!engine.registry.contains id && entities.any (·.1 == id)) := by
    rw [h.pending_wire_each hpending hentities, contains_map_fst, any_newcomers]
  -- Entities that were registered before do not wait, and all newcomers do.
  have hold : (engine.registry.records.filter fun record =>
      (engine.wireEach entities).redraw.pending.contains record.id && true) = [] := by
    rw [List.filter_eq_nil_iff]
    intro record hrecord
    have hknown : engine.registry.contains record.id :=
      Registry.contains_iff_mem_ids.mpr (List.mem_map_of_mem hrecord)
    rw [hwaits, hknown, Bool.not_true, Bool.false_and, Bool.false_and]
    exact Bool.false_ne_true
  rw [Redraw.due, h.records_wire_each hentities, List.filter_append, hold, List.nil_append,
    List.filter_eq_self, wiredRecords, List.forall_mem_map]
  intro entity hentity
  rw [Bool.and_true, List.contains_iff_mem, h.pending_wire_each hpending hentities]
  exact List.mem_map_of_mem hentity

/-- To wire announced entities and then flush is to draw the newcomers. -/
theorem Routed.draws_wire_each (h : engine.Routed settings) (hpending : engine.redraw.pending = [])
    (hentities : ∀ entity ∈ entities, Announced entity.1 entity.2) :
    engine.Draws (engine.wireEach entities).flush
      (wiredRecords settings (engine.newcomers entities)) := by
  have hwired : (engine.wireEach entities).Routed settings := h.wire_each hentities
  have hrecords := h.records_wire_each hentities
  constructor
  case settings_eq => exact hwired.listening.settings_eq.trans h.listening.settings_eq.symm
  case frames =>
    show ((engine.wireEach entities).flushWhere fun _ => true).frames = _
    rw [frames_flush_where, h.due_wire_each hpending hentities, frames_wire_each,
      hwired.listening.settings_eq, h.listening.settings_eq]
  case nodup =>
    rw [map_id_wired_records, map_fst_newcomers]
    exact nodup_erase_dups _
  case found =>
    intro record hrecord
    exact Registry.get?_of_mem hwired.nodup (hrecords ▸ List.mem_append_right _ hrecord)
  case others =>
    intro id hid
    show (engine.wireEach entities).registry.get? id = _
    have hnone : (wiredRecords settings (engine.newcomers entities)).find? (·.id == id) = none := by
      rw [List.find?_eq_none]
      intro record hrecord hsame
      exact hid (eq_of_beq hsame ▸ List.mem_map_of_mem hrecord)
    rw [Registry.get?, hrecords, List.find?_append, hnone, Option.or_none, ← Registry.get?]
  case pending =>
    rw [List.eq_nil_iff_forall_not_mem]
    intro id hid
    obtain ⟨hwaits, hdue⟩ := mem_pending_flush_where.mp hid
    rw [h.pending_wire_each hpending hentities] at hwaits
    obtain ⟨entity, hentity, rfl⟩ := List.mem_map.mp hwaits
    rw [h.due_wire_each hpending hentities] at hdue
    -- All that waited was due, so it was drawn.
    exact hdue _ (List.mem_map_of_mem hentity) rfl

/-! ## What an event draws -/

/-- The entities that an event draws, in order: the one to which the stream of the samples leads,
and of those announced for charting the ones that are not registered. -/
def drawnBy (engine : Engine) : StreamEvent → List String
  | .sample stream _ => (engine.subscriptions.route? stream).toList
  | .discovery population =>
    (((StreamEvent.discovery population).announcedIds engine.settings).filter
      fun id => !engine.registry.contains id).eraseDups

/-- Samples draw the entity to which their stream leads, as it is once they are stored. -/
theorem Routed.draws_handle_sample (h : engine.Routed settings)
    (hpending : engine.redraw.pending = []) (stream : String) (payload : Members Json) :
    ∃ drawn, engine.Draws (engine.handleSample stream payload) drawn ∧
      drawn.map (·.id) = engine.drawnBy (.sample stream payload) := by
  cases hroute : engine.subscriptions.route? stream with
  | none =>
      rw [handle_sample_of_no_route payload hroute, drawnBy, hroute]
      exact ⟨[], (Draws.refl hpending).of_eq rfl rfl rfl rfl, rfl⟩
  | some id =>
      obtain ⟨record, hrecord, _⟩ := (h.listening.routes stream id).mp hroute
      obtain rfl := Registry.id_of_get? hrecord
      obtain ⟨log, hsample⟩ := h.listening.handle_sample_of_route payload hroute
      have hsame (record : EntityRecord) : EntityRecord.SameEntity
          (record.ingest settings.ranges payload record.metrics) record := .ingest record _
      have hid := (hsame record).id
      refine ⟨[record.ingest settings.ranges payload record.metrics], ?_, ?_⟩
      · rw [hsample, ← hid]
        refine Draws.flush_entity rfl rfl hpending ?_ ?_
        · refine (Registry.get?_modify fun record => (hsame record).id).trans ?_
          rw [if_pos rfl, hid, hrecord, Option.map_some]
        · intro other hother
          exact (Registry.get?_modify fun record => (hsame record).id).trans (if_neg hother)
      · rw [drawnBy, hroute, List.map_singleton, hid]
        rfl

/-- An announcement draws its arrivals, in order. -/
theorem Routed.draws_discover (h : engine.Routed settings) (hpending : engine.redraw.pending = [])
    (hpopulation : ∀ entity ∈ population.entities, Announced entity.1 entity.2) :
    ∃ drawn, engine.Draws (engine.discover population) drawn ∧
      drawn.map (·.id) = engine.drawnBy (.discovery population) := by
  have hdrawn : engine.drawnBy (.discovery population) = (engine.arrivals population).map (·.1) :=
    (map_fst_arrivals rfl population).symm
  by_cases harrivals : engine.arrivals population = []
  · obtain ⟨log, hdiscover⟩ := h.discover_of_no_arrivals hpopulation harrivals
    rw [hdiscover, hdrawn, harrivals]
    exact ⟨[], (Draws.refl hpending).of_eq rfl rfl rfl rfl, rfl⟩
  · rw [h.discover_of_arrivals hpopulation harrivals, hdrawn, (charted_of_arrivals harrivals).2]
    exact ⟨_, (h.draws_wire_each hpending hpopulation).of_eq rfl rfl rfl rfl,
      map_id_wired_records ..⟩

/-- An event draws what it changes. -/
theorem Routed.draws_handle_event (h : engine.Routed settings)
    (hpending : engine.redraw.pending = []) (hevent : event.Decoded) :
    ∃ drawn, engine.Draws (engine.handleEvent event) drawn ∧
      drawn.map (·.id) = engine.drawnBy event := by
  cases event with
  | sample stream payload => exact h.draws_handle_sample hpending stream payload
  | discovery population => exact h.draws_discover hpending hevent.announced_entities

/-! ## What is on display between events -/

/-- Between events nothing waits, and each entity is seen as it is. -/
structure Settled (settings : Settings) (engine : Engine) : Prop where
  routed : engine.Routed settings
  pending : engine.redraw.pending = []
  display : engine.OnDisplay

/-- When a session starts, the configured aggregates are drawn, each once and in the order of
configuration. -/
theorem draws_start (hmode : settings.mode = .push) :
    ∃ drawn, (Engine.new settings).Draws (Engine.new settings).start drawn ∧
      drawn.map (·.id) = (configured settings).eraseDups := by
  have hentities : ∀ entity ∈ (configured settings).map fun name =>
      (name, EntityKind.ofAggregate name), Announced entity.1 entity.2 := by
    rw [List.forall_mem_map]
    intro name _
    exact .aggregate name
  have hdraws := (Routed.new hmode).draws_wire_each rfl hentities
  rw [wireEach, List.foldl_map] at hdraws
  -- Nothing is registered before, so all are newcomers.
  have hnew (id : String) : (!(Engine.new settings).registry.contains id) = true := rfl
  refine ⟨_, hdraws.of_eq rfl rfl rfl rfl, ?_⟩
  rw [map_id_wired_records, map_fst_newcomers, List.map_map,
    List.filter_eq_self.mpr fun id _ => hnew id]
  exact congrArg List.eraseDups (List.map_id' _)

/-- Once the configured aggregates are wired, all is on display. -/
theorem Settled.start (hmode : settings.mode = .push) :
    (Engine.new settings).start.Settled settings := by
  obtain ⟨drawn, hdraws, -⟩ := draws_start hmode
  exact ⟨.start hmode, hdraws.pending, hdraws.on_display fun _ => rfl⟩

/-- All is on display after each event. -/
theorem Settled.handle_event (h : engine.Settled settings) (hevent : event.Decoded) :
    (engine.handleEvent event).Settled settings := by
  obtain ⟨drawn, hdraws, -⟩ := h.routed.draws_handle_event h.pending hevent
  exact ⟨h.routed.handle_event hevent, hdraws.pending, hdraws.on_display h.display⟩

/-- All is on display after a number of events. -/
theorem Settled.handle_all (h : engine.Settled settings)
    (hevents : ∀ event ∈ events, event.Decoded) : (engine.handleAll events).Settled settings := by
  induction events generalizing engine with
  | nil => exact h
  | cons event events ih =>
      rw [List.forall_mem_cons] at hevents
      exact ih (h.handle_event hevents.1) hevents.2

end Engine

end StatsBoard
