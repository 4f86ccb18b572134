import StatsBoard.Proofs.Stream.Routing

/-!
# Announced populations

An announcement wires those children of a charted aggregate that are not registered, each once and
in the order in which they are announced, and leaves every other entity as it is
(`Routed.records_discover`). So the entities of a session that listens are the first occurrences
of what was configured and what was announced since: `wired_once_in_order`.
-/

namespace StatsBoard

/-- The children of a population, each with its identifier and its kind. -/
def Discovery.entities (population : Discovery) : List (String × EntityKind) :=
  population.children.map fun subId =>
    (childId population.parent subId, .concrete population.parent subId population.family)

/-- The children of a decoded population are announced entities. -/
theorem StreamEvent.Decoded.announced_entities {population : Discovery}
    (h : (discovery population).Decoded) :
    ∀ entity ∈ population.entities, Announced entity.1 entity.2 := by
  rw [Discovery.entities, List.forall_mem_map]
  intro subId _
  exact h.announced subId

namespace Engine

variable {settings : Settings} {engine : Engine} {id : String} {kind : EntityKind}
  {entities : List (String × EntityKind)} {population : Discovery}

/-! ## Wiring entities in order -/

/-- Wire entities in order. -/
def wireEach (engine : Engine) (entities : List (String × EntityKind)) : Engine :=
  entities.foldl (fun engine entity => engine.wire entity.1 entity.2) engine

/-- Of entities in order, those that are not registered, each at its first occurrence. -/
def newcomers (engine : Engine) (entities : List (String × EntityKind)) :
    List (String × EntityKind) :=
  firstOfEach (entities.filter fun entity => !engine.registry.contains entity.1)

/-- The records of entities that have just been wired. -/
def wiredRecords (settings : Settings) (entities : List (String × EntityKind)) :
    List EntityRecord :=
  entities.map fun entity => wiredRecord settings entity.1 entity.2

/-- Entities that have just been wired keep their identifiers. -/
theorem map_id_wired_records (settings : Settings) (entities : List (String × EntityKind)) :
    (wiredRecords settings entities).map (·.id) = entities.map (·.1) := by
  rw [wiredRecords, List.map_map]
  rfl

/-- The last entity is wired after the others. -/
theorem wire_each_concat (entities : List (String × EntityKind)) (last : String × EntityKind) :
    engine.wireEach (entities ++ [last]) = (engine.wireEach entities).wire last.1 last.2 := by
  rw [wireEach, List.foldl_concat, ← wireEach]

/-- Announced children are wired in order. -/
theorem wire_children_eq_wire_each (population : Discovery) :
    (engine.wireChildren population).1 = engine.wireEach population.entities := by
  rw [wire_children_eq, wireEach, Discovery.entities, List.foldl_map]

/-- An entity is among the newcomers exactly if it is to be wired and was not registered. -/
theorem any_newcomers (id : String) : (engine.newcomers entities).any (·.1 == id) =
    (!engine.registry.contains id && entities.any (·.1 == id)) := by
  rw [newcomers, any_first_of_each, any_filter_key fun id => !engine.registry.contains id]

/-- The last entity is a newcomer exactly if it is neither registered nor among the others. -/
theorem newcomers_concat (entities : List (String × EntityKind)) (last : String × EntityKind) :
    engine.newcomers (entities ++ [last]) =
      if engine.registry.contains last.1 || entities.any (·.1 == last.1) then
        engine.newcomers entities
      else engine.newcomers entities ++ [last] := by
  rw [newcomers, newcomers, List.filter_append, List.filter_singleton]
  cases hknown : engine.registry.contains last.1 with
  | true => simp
  | false =>
      rw [Bool.not_false, cond_true, first_of_each_concat,
        any_filter_key fun id => !engine.registry.contains id, hknown, Bool.not_false,
        Bool.true_and, Bool.false_or]

/-- The identifiers of the newcomers are first occurrences. -/
theorem map_fst_newcomers : (engine.newcomers entities).map (·.1) =
    ((entities.map (·.1)).filter fun id => !engine.registry.contains id).eraseDups := by
  rw [newcomers, map_fst_first_of_each, List.filter_map]
  rfl

/-- In a session that listens the wired entities are those that are registered. -/
theorem Listening.is_wired_eq (h : engine.Listening settings) (id : String) :
    engine.isWired id = engine.registry.contains id := by
  rw [Registry.contains_eq_is_some, isWired]
  cases hrecord : engine.registry.get? id with
  | none => rfl
  | some record => exact h.subscribed id record hrecord

/-- Wiring an entity adds its record after the others, unless it is registered. -/
theorem Listening.records_wire (h : engine.Listening settings) (id : String) (kind : EntityKind) :
    (engine.wire id kind).registry.records =
      if engine.registry.contains id then engine.registry.records
      else engine.registry.records ++ [wiredRecord settings id kind] := by
  rw [← h.is_wired_eq]
  cases hwired : engine.isWired id with
  | true => rw [wire_of_wired hwired, if_pos rfl]
  | false =>
      obtain ⟨_, _, _, hwire⟩ := wire_of_not_wired kind hwired
      rw [hwire, enlist, Registry.records_enlist, h.layout_eq, if_neg Bool.false_ne_true]
      · rfl
      · rw [← h.is_wired_eq, hwired]

/-- Wiring announced entities keeps routes and entities in agreement. -/
theorem Routed.wire_each (h : engine.Routed settings)
    (hentities : ∀ entity ∈ entities, Announced entity.1 entity.2) :
    (engine.wireEach entities).Routed settings := by
  induction entities using List.reverseRecOn with
  | nil => exact h
  | append_singleton entities last ih =>
      rw [List.forall_mem_append, List.forall_mem_singleton] at hentities
      rw [wire_each_concat]
      exact (ih hentities.1).wire hentities.2

/-- Once newcomers have their records, an entity is registered exactly if it was or was to be
wired. -/
theorem contains_of_newcomers {after : Engine}
    (h : after.registry.records =
      engine.registry.records ++ wiredRecords settings (engine.newcomers entities))
    (id : String) :
    after.registry.contains id =
      (engine.registry.contains id || entities.any (·.1 == id)) := by
  have hnew : (wiredRecords settings (engine.newcomers entities)).any (·.id == id) =
      (engine.newcomers entities).any (·.1 == id) := List.any_map
  rw [Registry.contains, h, List.any_append, hnew, any_newcomers, ← Registry.contains,
    Bool.or_and_distrib_left, Bool.or_not_self, Bool.true_and]

/-- Wiring announced entities adds the records of the newcomers after the others. -/
theorem Routed.records_wire_each (h : engine.Routed settings)
    (hentities : ∀ entity ∈ entities, Announced entity.1 entity.2) :
    (engine.wireEach entities).registry.records =
      engine.registry.records ++ wiredRecords settings (engine.newcomers entities) := by
  induction entities using List.reverseRecOn with
  | nil => exact (List.append_nil _).symm
  | append_singleton entities last ih =>
      rw [List.forall_mem_append] at hentities
      have hbefore := ih hentities.1
      -- Both sides ask whether the last entity was registered or is among the others.
      rw [wire_each_concat, (h.wire_each hentities.1).listening.records_wire,
        contains_of_newcomers hbefore, newcomers_concat, hbefore]
      split
      · rfl
      · rw [wiredRecords, wiredRecords, List.map_append, List.map_singleton, List.append_assoc]

/-- Wiring announced entities registers them. -/
theorem Routed.contains_wire_each (h : engine.Routed settings)
    (hentities : ∀ entity ∈ entities, Announced entity.1 entity.2) (id : String) :
    (engine.wireEach entities).registry.contains id =
      (engine.registry.contains id || entities.any (·.1 == id)) :=
  contains_of_newcomers (h.records_wire_each hentities) id

/-- Wiring registered entities changes nothing. -/
theorem Listening.wire_each_of_known (h : engine.Listening settings)
    (hknown : ∀ entity ∈ entities, engine.registry.contains entity.1) :
    engine.wireEach entities = engine := by
  induction entities with
  | nil => rfl
  | cons entity entities ih =>
      rw [List.forall_mem_cons] at hknown
      rw [wireEach, List.foldl_cons, wire_of_wired ((h.is_wired_eq _).trans hknown.1), ← wireEach]
      exact ih hknown.2

/-- The children that are counted are the newcomers. -/
theorem Routed.added_wire_children (h : engine.Routed settings)
    (hpopulation : ∀ entity ∈ population.entities, Announced entity.1 entity.2) :
    (engine.wireChildren population).2 = (engine.newcomers population.entities).length := by
  obtain ⟨family, parent, children⟩ := population
  induction children using List.reverseRecOn with
  | nil => rfl
  | append_singleton children subId ih =>
      have hentities : (⟨family, parent, children ++ [subId]⟩ : Discovery).entities =
          (⟨family, parent, children⟩ : Discovery).entities ++
            [(childId parent subId, .concrete parent subId family)] := List.map_append
      have hlast : (engine.wireChildren ⟨family, parent, children ++ [subId]⟩).2 =
          if (engine.wireChildren ⟨family, parent, children⟩).1.isWired (childId parent subId) then
            (engine.wireChildren ⟨family, parent, children⟩).2
          else (engine.wireChildren ⟨family, parent, children⟩).2 + 1 := by
        rw [wireChildren, List.foldl_concat]
        rfl
      rw [hentities, List.forall_mem_append] at hpopulation
      rw [hlast, ih hpopulation.1, wire_children_eq_wire_each,
        (h.wire_each hpopulation.1).listening.is_wired_eq, h.contains_wire_each hpopulation.1,
        hentities, newcomers_concat]
      split
      · rfl
      · rw [List.length_append, List.length_singleton]

/-! ## Announcements -/

/-- The entities that an announcement adds: the newcomers among the children, if they are to be
charted. -/
def arrivals (engine : Engine) (population : Discovery) : List (String × EntityKind) :=
  if engine.settings.watchersWithPids.contains population.parent then
    engine.newcomers population.entities
  else []

/-- An announcement that adds entities is one for charting, and adds the newcomers. -/
theorem charted_of_arrivals (harrivals : engine.arrivals population ≠ []) :
    engine.settings.watchersWithPids.contains population.parent ∧
      engine.arrivals population = engine.newcomers population.entities := by
  rw [arrivals] at harrivals ⊢
  split at harrivals
  next hcharted => exact ⟨hcharted, if_pos hcharted⟩
  next => exact absurd rfl harrivals

/-- An announcement that adds no entity changes nothing but what was reported. -/
theorem Routed.discover_of_no_arrivals (h : engine.Routed settings)
    (hpopulation : ∀ entity ∈ population.entities, Announced entity.1 entity.2)
    (harrivals : engine.arrivals population = []) :
    ∃ log, engine.discover population = { engine with log := log } := by
  unfold Engine.discover
  split
  next hcharted =>
    rw [arrivals, if_pos hcharted] at harrivals
    have hknown : ∀ entity ∈ population.entities, engine.registry.contains entity.1 := by
      intro entity hentity
      have hany : population.entities.any (·.1 == entity.1) :=
        List.any_eq_true.mpr ⟨entity, hentity, beq_self_eq_true _⟩
      have hnone := @any_newcomers engine population.entities entity.1
      rw [harrivals, List.any_nil, hany, Bool.and_true] at hnone
      simpa using hnone
    -- No child is new, so none is wired and none is counted.
    have hnothing : engine.wireChildren population = (engine, 0) := by
      refine Prod.ext ?_ ?_
      · rw [wire_children_eq_wire_each, h.listening.wire_each_of_known hknown]
      · rw [h.added_wire_children hpopulation, harrivals, List.length_nil]
    rw [hnothing]
    exact ⟨engine.log, rfl⟩
  next => exact ⟨_, rfl⟩

/-- An announcement that adds entities wires its children and draws what waits then. -/
theorem Routed.discover_of_arrivals (h : engine.Routed settings)
    (hpopulation : ∀ entity ∈ population.entities, Announced entity.1 entity.2)
    (harrivals : engine.arrivals population ≠ []) :
    engine.discover population = ((engine.wireEach population.entities).report
      [.discovered population.parent (engine.newcomers population.entities).length]).flush := by
  obtain ⟨hcharted, hnewcomers⟩ := charted_of_arrivals harrivals
  have hadded := h.added_wire_children hpopulation
  have hsome : (engine.wireChildren population).2 ≠ 0 := by
    rwa [hadded, ← hnewcomers, ne_eq, List.length_eq_zero_iff]
  unfold Engine.discover
  rw [if_pos hcharted, ← wire_children_eq_wire_each, ← hadded]
  exact if_neg hsome

/-- An announcement adds the records of its arrivals after the others. -/
theorem Routed.records_discover (h : engine.Routed settings)
    (hpopulation : ∀ entity ∈ population.entities, Announced entity.1 entity.2) :
    (engine.discover population).registry.records =
      engine.registry.records ++ wiredRecords settings (engine.arrivals population) := by
  by_cases harrivals : engine.arrivals population = []
  · obtain ⟨log, hdiscover⟩ := h.discover_of_no_arrivals hpopulation harrivals
    rw [hdiscover, harrivals, wiredRecords, List.map_nil, List.append_nil]
  · rw [h.discover_of_arrivals hpopulation harrivals, (charted_of_arrivals harrivals).2]
    exact h.records_wire_each hpopulation

end Engine

/-! ## Registered entities, in order -/

/-- The identifiers of the children that an event announces for charting, in order. -/
def StreamEvent.announcedIds (settings : Settings) : StreamEvent → List String
  | sample _ _ => []
  | discovery population =>
    if settings.watchersWithPids.contains population.parent then
      population.children.map (childId population.parent)
    else []

namespace Engine

variable {settings : Settings} {engine : Engine} {event : StreamEvent} {events : List StreamEvent}
  {population : Discovery}

/-- The identifiers of the arrivals are the first occurrences of announced identifiers that are not
registered. -/
theorem map_fst_arrivals (h : engine.settings = settings) (population : Discovery) :
    (engine.arrivals population).map (·.1) =
      (((StreamEvent.discovery population).announcedIds settings).filter
        fun id => !engine.registry.contains id).eraseDups := by
  rw [arrivals, StreamEvent.announcedIds, h]
  split
  · rw [map_fst_newcomers, Discovery.entities, List.map_map]
    rfl
  · rfl

/-- An event registers what it announces, in order. -/
theorem Routed.ids_handle_event (h : engine.Routed settings) (hevent : event.Decoded) :
    (engine.handleEvent event).registry.ids =
      (engine.registry.ids ++ event.announcedIds settings).eraseDups := by
  cases event with
  | sample stream payload =>
      rw [handleEvent, StreamEvent.announcedIds, List.append_nil, erase_dups_of_nodup h.nodup]
      cases hroute : engine.subscriptions.route? stream with
      | none => rw [handle_sample_of_no_route payload hroute, report]
      | some id =>
          obtain ⟨log, hsample⟩ := h.listening.handle_sample_of_route payload hroute
          rw [hsample]
          exact Registry.ids_modify fun record =>
            (EntityRecord.SameEntity.ingest record record.metrics).id
  | discovery population =>
      have hnew : (fun id => !engine.registry.contains id) =
          fun id => !engine.registry.ids.elem id := by
        funext id
        rw [Bool.eq_iff_iff, Bool.not_eq_true', Bool.not_eq_true', Bool.eq_false_iff,
          Bool.eq_false_iff, ne_eq, ne_eq, Registry.contains_iff_mem_ids, List.elem_iff]
      have hids : (engine.discover population).registry.ids =
          engine.registry.ids ++ (engine.arrivals population).map (·.1) := by
        rw [Registry.ids, h.records_discover hevent.announced_entities, List.map_append,
          map_id_wired_records, Registry.ids]
      rw [handleEvent, hids, map_fst_arrivals h.listening.settings_eq, List.eraseDups_append,
        erase_dups_of_nodup h.nodup, hnew]
      rfl

/-- Events register what they announce, in order. -/
theorem Routed.ids_handle_all (h : engine.Routed settings)
    (hevents : ∀ event ∈ events, event.Decoded) :
    (engine.handleAll events).registry.ids =
      (engine.registry.ids ++ events.flatMap (·.announcedIds settings)).eraseDups := by
  induction events generalizing engine with
  | nil => rw [List.flatMap_nil, List.append_nil, erase_dups_of_nodup h.nodup, handleAll,
      List.foldl_nil]
  | cons event events ih =>
      rw [List.forall_mem_cons] at hevents
      rw [handleAll, List.foldl_cons, ← handleAll, ih (h.handle_event hevents.1) hevents.2,
        h.ids_handle_event hevents.1, erase_dups_append_left, List.flatMap_cons, List.append_assoc]

/-- The registered entities of a session are the first occurrences of what was configured and what
was announced for charting, in order. -/
theorem ids_of_events (hmode : settings.mode = .push) (hevents : ∀ event ∈ events, event.Decoded) :
    ((Engine.new settings).start.handleAll events).registry.ids =
      (configured settings ++ events.flatMap (·.announcedIds settings)).eraseDups := by
  have hstart : (Engine.new settings).start.Routed settings := .start hmode
  have hfirst : (Engine.new settings).start.registry.ids = (configured settings).eraseDups :=
    ids_wire_configured settings
  rw [hstart.ids_handle_all hevents, hfirst, erase_dups_append_left]

/-- At every moment of a session that listens: the registered entities are the first occurrences of
the configured aggregates and of the children announced for charting since, in order, and each has
one route. An announcement leaves all records and routes as they are and adds others after them; if
what it announces for charting is registered, then it changes nothing but what was reported. -/
theorem wired_once_in_order (hmode : settings.mode = .push)
    (hevents : ∀ event ∈ events, event.Decoded)
    (hengine : engine = (Engine.new settings).start.handleAll events) :
    engine.registry.ids =
      (configured settings ++ events.flatMap (·.announcedIds settings)).eraseDups ∧
    engine.subscriptions.routes.map (·.2) = engine.registry.ids ∧
    ∀ population, (StreamEvent.discovery population).Decoded →
      engine.registry.records <+:
        (engine.handleEvent (.discovery population)).registry.records ∧
      engine.subscriptions.routes <+:
        (engine.handleEvent (.discovery population)).subscriptions.routes ∧
      ((∀ id ∈ (StreamEvent.discovery population).announcedIds settings,
          engine.registry.contains id) →
        ∃ log, engine.handleEvent (.discovery population) = { engine with log := log }) := by
  have h : engine.Routed settings := hengine ▸ (Routed.start hmode).handle_all hevents
  refine ⟨?ids, ?routes, ?announcements⟩
  case ids => rw [hengine, ids_of_events hmode hevents]
  case routes =>
    rw [h.routes, List.map_map]
    rfl
  case announcements =>
    intro population hpopulation
    have hrecords := h.records_discover hpopulation.announced_entities
    refine ⟨⟨_, hrecords.symm⟩, ?_, ?_⟩
    · rw [h.routes, (h.handle_event hpopulation).routes]
      exact List.IsPrefix.map _ ⟨_, hrecords.symm⟩
    · intro hknown
      refine h.discover_of_no_arrivals hpopulation.announced_entities ?_
      have hnone : (((StreamEvent.discovery population).announcedIds settings).filter
          fun id => !engine.registry.contains id) = [] := by
        rw [List.filter_eq_nil_iff]
        intro id hid
        simp [hknown id hid]
      rw [← List.map_eq_nil_iff, map_fst_arrivals h.listening.settings_eq, hnone,
        List.eraseDups_nil]

/-- `web` is configured twice, and `db-1` is both configured and a process of `db`. -/
def webTwice : Settings :=
  { watchers := ["web", "db-1"], watchersWithPids := ["db", "web"] }

/-- Announcements of processes of `db` that repeat each other, with a sample between them, and one
of processes of an aggregate that is not charted. -/
def overlappingAnnouncements : List StreamEvent :=
  [.discovery ⟨.watcher, "db", ["2", "1", "2"]⟩,
    .sample "stats-db-2" [("cpu", .number (.integer 5))],
    .discovery ⟨.watcher, "cache", ["4"]⟩,
    .discovery ⟨.watcher, "db", ["3", "2"]⟩]

/-- Texts of frames say those events, the second time process 2 is announced as padded text. -/
theorem decoded_of_mem_overlapping_announcements :
    ∀ event ∈ overlappingAnnouncements, event.Decoded := by
  rw [overlappingAnnouncements]
  simp only [List.forall_mem_cons]
  refine ⟨⟨"\x7b\"name\":\"stats-db-pids\",\"args\":\x7b\"pids\":[2,1,\" 2 \"]\x7d\x7d", ?_⟩,
    ⟨"\x7b\"name\":\"stats-db-2\",\"args\":\x7b\"cpu\":5\x7d\x7d", ?_⟩,
    ⟨"\x7b\"name\":\"stats-cache-pids\",\"args\":\x7b\"pids\":[4]\x7d\x7d", ?_⟩,
    ⟨"\x7b\"name\":\"stats-db-pids\",\"args\":\x7b\"pids\":[3,2]\x7d\x7d", ?_⟩,
    List.forall_mem_nil _⟩
  <;> decide +kernel

/-- Each process is registered once, and to announce two of them again changes nothing. -/
theorem wired_once_in_order_overlap :
    ∃ engine, engine = (Engine.new webTwice).start.handleAll overlappingAnnouncements ∧
      engine.registry.ids = ["web", "db-1", "db", "db-2", "db-3"] ∧
      ∃ log, engine.handleEvent (.discovery ⟨.watcher, "db", ["2", "1", "2"]⟩) =
        { engine with log := log } := by
  have hmode : webTwice.mode = .push := rfl
  obtain ⟨hids, -, hannouncements⟩ :=
    wired_once_in_order hmode decoded_of_mem_overlapping_announcements rfl
  have hagain : (StreamEvent.discovery ⟨.watcher, "db", ["2", "1", "2"]⟩).Decoded :=
    decoded_of_mem_overlapping_announcements _ List.mem_cons_self
  refine ⟨_, rfl, hids.trans (by decide +kernel), (hannouncements _ hagain).2.2 ?_⟩
  simp only [Registry.contains_iff_mem_ids, hids]
  decide +kernel

end Engine

end StatsBoard
