import StatsBoard.Proofs.Stream.Listening

/-!
# Streams and entities, one for one

In a session that listens the routes are those of the registered entities, in the order in which
they were registered (`Routed`). Together with the names of streams this makes a bijection of
entities and streams: `routing_bijective`.
-/

namespace StatsBoard

/-- The route of an entity: its stream, and the identifier to which the stream leads. -/
def EntityRecord.route (record : EntityRecord) : String × String :=
  (record.kind.stream record.id, record.id)

namespace Registry

variable {α : Type} {registry : Registry} {id : String} {kind : EntityKind}
  {view : EntityRecord → α}

/-- Records show the same if the change of one of them does not show. -/
theorem map_records_modify {change : EntityRecord → EntityRecord}
    (h : ∀ record, view (change record) = view record) :
    (registry.modify id change).records.map view = registry.records.map view := by
  rw [modify, List.map_map]
  refine List.map_congr_left fun record _ => ?_
  rw [Function.comp_apply]
  split
  · exact h record
  · rfl

/-- An entity that is not registered is enlisted after the others. -/
theorem map_records_enlist (h : ∀ record, view (EntityRecord.markSubscribed record) = view record)
    (hnew : registry.contains id = false) :
    (registry.enlist id kind).records.map view =
      registry.records.map view ++ [view (.fresh registry.layout id kind)] := by
  rw [records_enlist hnew, List.map_append, List.map_singleton, h]

end Registry

namespace Engine

/-- The session listens with given settings, its routes are those of its records in their order,
and each record has another identifier. -/
structure Routed (settings : Settings) (engine : Engine) : Prop where
  listening : engine.Listening settings
  routes : engine.subscriptions.routes = engine.registry.records.map EntityRecord.route
  nodup : engine.registry.ids.Nodup

variable {settings : Settings} {engine : Engine} {id : String} {kind : EntityKind}

/-- A session before anything is wired. -/
theorem Routed.new (hmode : settings.mode = .push) : (new settings).Routed settings :=
  ⟨.new hmode, rfl, List.nodup_nil⟩

/-- What is drawn and reported does not matter to the routes. -/
theorem Routed.of_eq {after : Engine} (h : engine.Routed settings)
    (hsettings : after.settings = engine.settings) (hregistry : after.registry = engine.registry)
    (hsubscriptions : after.subscriptions = engine.subscriptions) : after.Routed settings := by
  refine ⟨h.listening.of_eq hsettings hregistry hsubscriptions, ?_, ?_⟩
  · rw [hregistry, hsubscriptions]
    exact h.routes
  · rw [hregistry]
    exact h.nodup

/-- Wiring an entity adds its route with its record. -/
theorem Routed.wire (h : engine.Routed settings) (hannounced : Announced id kind) :
    (engine.wire id kind).Routed settings := by
  cases hwired : engine.isWired id with
  | true => rwa [wire_of_wired hwired]
  | false =>
      have hmode : engine.settings.mode = .push := by
        rw [h.listening.settings_eq, h.listening.mode]
      have hwire : engine.wire id kind = (engine.enlist id kind).subscribe id kind :=
        wire_of_push hmode hwired
      have hnew : engine.registry.contains id = false := by
        rw [Registry.contains_eq_is_some, h.listening.get?_of_not_wired hwired, Option.isSome_none]
      have hfree : engine.subscriptions.contains (kind.stream id) = false := by
        rw [Subscriptions.contains_eq_is_some, h.listening.route?_of_not_wired hannounced hwired,
          Option.isSome_none]
      refine ⟨h.listening.wire hannounced, ?routes, ?nodup⟩
      case routes =>
        rw [hwire]
        show (engine.subscriptions.subscribe id kind).routes =
          (engine.registry.enlist id kind).records.map EntityRecord.route
        rw [Subscriptions.subscribe, hfree, if_neg Bool.false_ne_true,
          Registry.map_records_enlist (fun _ => rfl) hnew, h.routes]
        rfl
      case nodup =>
        rw [hwire]
        exact Registry.nodup_enlist h.nodup

/-- Once the configured aggregates are wired, the routes are theirs. -/
theorem Routed.start (hmode : settings.mode = .push) :
    (Engine.new settings).start.Routed settings := by
  have hwired (names : List String) : ((Engine.new settings).wireAll names).Routed settings := by
    induction names using List.reverseRecOn with
    | nil => exact .new hmode
    | append_singleton names name ih =>
        rw [wire_all_concat]
        exact ih.wire (.aggregate name)
  exact (hwired (configured settings)).of_eq rfl rfl rfl

/-- An announced population adds the routes of its children. -/
theorem Routed.discover (h : engine.Routed settings) {population : Discovery}
    (hpopulation : ∀ subId, Announced (childId population.parent subId)
      (.concrete population.parent subId population.family)) :
    (engine.discover population).Routed settings := by
  have hchildren : (engine.wireChildren population).1.Routed settings := by
    rw [wire_children_eq]
    induction population.children using List.reverseRecOn with
    | nil => exact h
    | append_singleton children subId ih =>
        rw [List.foldl_concat]
        exact ih.wire (hpopulation subId)
  obtain ⟨wired, hwired, hsettings, hregistry, hsubscriptions⟩ := @discover_eq engine population
  refine Routed.of_eq ?_ hsettings hregistry hsubscriptions
  rcases hwired with rfl | rfl
  · exact h
  · exact hchildren

/-- Samples on a stream that leads nowhere are dropped. -/
theorem handle_sample_of_no_route {stream : String} (payload : Members Json)
    (hroute : engine.subscriptions.route? stream = none) :
    engine.handleSample stream payload = engine.report [.sampleDropped stream] := by
  rw [handleSample, Subscriptions.deliver, hroute]
  rfl

/-- Samples on a stream that leads to an entity are stored in its record, and the entity is
drawn. -/
theorem Listening.handle_sample_of_route (h : engine.Listening settings) {stream : String}
    (payload : Members Json) (hroute : engine.subscriptions.route? stream = some id) :
    ∃ log, engine.handleSample stream payload = ({ engine with
      registry := engine.registry.modify id fun record =>
        record.ingest settings.ranges payload record.metrics
      log := log } : Engine).flushEntity id := by
  obtain ⟨record, hrecord, _⟩ := (h.routes stream id).mp hroute
  rw [handleSample, Subscriptions.deliver, hroute, h.settings_eq]
  simp only [Option.bind_eq_bind, Option.bind_some, hrecord]
  exact ⟨_, rfl⟩

/-- Samples leave the routes as they are. -/
theorem Routed.handle_sample (h : engine.Routed settings) (stream : String)
    (payload : Members Json) : (engine.handleSample stream payload).Routed settings := by
  have hkept : (engine.handleSample stream payload).subscriptions.routes =
        (engine.handleSample stream payload).registry.records.map EntityRecord.route ∧
      (engine.handleSample stream payload).registry.ids.Nodup := by
    cases hroute : engine.subscriptions.route? stream with
    | none =>
        rw [handle_sample_of_no_route payload hroute]
        exact ⟨h.routes, h.nodup⟩
    | some id =>
        obtain ⟨log, hsample⟩ := h.listening.handle_sample_of_route payload hroute
        have hsame (record : EntityRecord) : EntityRecord.SameEntity
            (record.ingest settings.ranges payload record.metrics) record := .ingest record _
        rw [hsample]
        refine ⟨?_, ?_⟩
        · refine h.routes.trans (Registry.map_records_modify fun record => ?_).symm
          rw [EntityRecord.route, EntityRecord.route, (hsame record).id, (hsame record).kind]
        · show (engine.registry.modify id _).ids.Nodup
          rw [Registry.ids_modify fun record => (hsame record).id]
          exact h.nodup
  exact ⟨h.listening.handle_sample stream payload, hkept.1, hkept.2⟩

/-- An event leaves routes and entities in agreement. -/
theorem Routed.handle_event (h : engine.Routed settings) {event : StreamEvent}
    (hevent : event.Decoded) : (engine.handleEvent event).Routed settings := by
  cases event with
  | sample stream payload => exact h.handle_sample stream payload
  | discovery population => exact h.discover hevent.announced

/-- Events leave routes and entities in agreement. -/
theorem Routed.handle_all (h : engine.Routed settings) {events : List StreamEvent}
    (hevents : ∀ event ∈ events, event.Decoded) : (engine.handleAll events).Routed settings := by
  induction events generalizing engine with
  | nil => exact h
  | cons event events ih =>
      rw [List.forall_mem_cons] at hevents
      exact ih (h.handle_event hevents.1) hevents.2

/-- A registered entity is found under its identifier, and its stream leads to it. -/
theorem Routed.route?_stream (h : engine.Routed settings) {record : EntityRecord}
    (hrecord : record ∈ engine.registry.records) :
    engine.subscriptions.route? (record.kind.stream record.id) = some record.id :=
  (h.listening.routes _ _).mpr ⟨record, Registry.get?_of_mem h.nodup hrecord, rfl⟩

/-- Entities that listen to one stream are one entity. -/
theorem Routed.stream_inj (h : engine.Routed settings) {record other : EntityRecord}
    (hrecord : record ∈ engine.registry.records) (hother : other ∈ engine.registry.records)
    (hstream : record.kind.stream record.id = other.kind.stream other.id) : record = other := by
  have hids : record.id = other.id := by
    rw [← Option.some_inj, ← h.route?_stream hrecord, hstream, h.route?_stream hother]
  exact List.inj_on_of_nodup_map h.nodup hrecord hother hids

/-- At every moment of a session that listens each registered entity is wired and its stream leads
to it, each stream that leads anywhere is that of exactly one registered entity, and there are as
many streams as entities; so samples that come on a stream find the entity to which it leads. -/
theorem routing_bijective (hmode : settings.mode = .push) {events : List StreamEvent}
    (hevents : ∀ event ∈ events, event.Decoded)
    (hengine : engine = (Engine.new settings).start.handleAll events) :
    (∀ record ∈ engine.registry.records, record.subscribed ∧
      engine.subscriptions.route? (record.kind.stream record.id) = some record.id) ∧
    (∀ stream, engine.subscriptions.contains stream →
      ∃! record, record ∈ engine.registry.records ∧ record.kind.stream record.id = stream) ∧
    engine.subscriptions.size = engine.registry.records.length ∧
    ∀ stream id, engine.subscriptions.route? stream = some id → engine.registry.contains id := by
  have h : engine.Routed settings := hengine ▸ (Routed.start hmode).handle_all hevents
  refine ⟨?entities, ?streams, ?size, ?reached⟩
  case entities =>
    intro record hrecord
    have hfound := Registry.get?_of_mem h.nodup hrecord
    exact ⟨h.listening.subscribed record.id record hfound, h.route?_stream hrecord⟩
  case streams =>
    intro stream hstream
    rw [Subscriptions.contains_eq_is_some] at hstream
    obtain ⟨id, hroute⟩ := Option.isSome_iff_exists.mp hstream
    obtain ⟨record, hrecord, rfl⟩ := (h.listening.routes stream id).mp hroute
    obtain rfl := Registry.id_of_get? hrecord
    refine ⟨record, ⟨Registry.mem_of_get? hrecord, rfl⟩, ?_⟩
    rintro other ⟨hother, hsame⟩
    exact h.stream_inj hother (Registry.mem_of_get? hrecord) hsame
  case size => rw [Subscriptions.size, h.routes, List.length_map]
  case reached =>
    intro stream id hroute
    obtain ⟨record, hrecord, _⟩ := (h.listening.routes stream id).mp hroute
    rw [Registry.contains_eq_is_some, hrecord, Option.isSome_some]

/-- The sockets are charted one by one, and next to them a watcher with the name of a socket. -/
def socketsAndWatcher : Settings :=
  { watchers := ["sockets-7", "sockets-7"], watchersWithPids := ["sockets"] }

/-- Announcements of two sockets, the second time with a third one, and of a process that would
belong to the pool of sockets. -/
def announcements : List StreamEvent :=
  [.discovery ⟨.socket, "sockets", ["7", "8"]⟩, .discovery ⟨.watcher, "sockets", ["9"]⟩,
    .discovery ⟨.socket, "sockets", ["8", "9", "stats"]⟩]

/-- Texts of frames say those announcements. -/
theorem decoded_of_mem_announcements : ∀ event ∈ announcements, event.Decoded := by
  rw [announcements]
  simp only [List.forall_mem_cons]
  refine ⟨⟨"\x7b\"name\":\"socket-stats-fds\",\"args\":\x7b\"fds\":[7,8]\x7d\x7d", ?_⟩,
    ⟨"\x7b\"name\":\"stats-sockets-pids\",\"args\":\x7b\"pids\":[9]\x7d\x7d", ?_⟩,
    ⟨"\x7b\"name\":\"socket-stats-fds\",\"args\":\x7b\"fds\":[8,9,\"stats\"]\x7d\x7d", ?_⟩,
    List.forall_mem_nil _⟩
  <;> decide +kernel

/-- Of the announced sockets one has the identifier of the watcher and one that of the process, and
neither gets a stream of its own. -/
theorem routing_bijective_sockets :
    ∃ engine, engine = (Engine.new socketsAndWatcher).start.handleAll announcements ∧
      engine.subscriptions.routes = [("stats-sockets-7", "sockets-7"), ("socket-stats", "sockets"),
        ("socket-stats-8", "sockets-8"), ("stats-sockets-9", "sockets-9"),
        ("socket-stats-stats", "sockets-stats")] ∧
      engine.subscriptions.size = engine.registry.records.length ∧
      ∃! record, record ∈ engine.registry.records ∧
        record.kind.stream record.id = "stats-sockets-9" := by
  have hmode : socketsAndWatcher.mode = .push := rfl
  have hall := routing_bijective hmode decoded_of_mem_announcements rfl
  exact ⟨_, rfl, by decide +kernel, hall.2.2.1, hall.2.1 _ (by decide +kernel)⟩

end Engine

end StatsBoard
