import StatsBoard.Proofs.Stream.Ingest
import StatsBoard.Proofs.Stream.Routes
import StatsBoard.Proofs.Wiring

/-!
# Sessions that listen

In a session that listens every registered entity is wired, and its stream leads to it and to no
other (`Listening`). Each event either changes a record as `EntityRecord.hear` says or adds new
records (`Listening.get?_handle_event`), so that a series holds the last samples that its entity
heard since it was wired: `series_of_heard`.
-/

namespace StatsBoard.Engine

/-! ## What holds while a session listens -/

/-- The session listens with given settings: all entities are announced, wired and of the configured
metrics, and each stream leads to the entity that listens to it. -/
structure Listening (settings : Settings) (engine : Engine) : Prop where
  mode : settings.mode = .push
  settings_eq : engine.settings = settings
  layout_eq : engine.registry.layout = settings.layout
  announced : ∀ id record, engine.registry.get? id = some record → Announced id record.kind
  subscribed : ∀ id record, engine.registry.get? id = some record → record.subscribed
  metrics : ∀ id record, engine.registry.get? id = some record →
    record.metrics = settings.layout.metricsFor record.kind.family
  routes : ∀ stream id, engine.subscriptions.route? stream = some id ↔
    ∃ record, engine.registry.get? id = some record ∧ record.kind.stream id = stream

/-- The record of an entity that has just been wired. -/
def wiredRecord (settings : Settings) (id : String) (kind : EntityKind) : EntityRecord :=
  (EntityRecord.fresh settings.layout id kind).markSubscribed

/-- An entity that has just been wired has the metrics of its family. -/
theorem metrics_wired_record (settings : Settings) (id : String) (kind : EntityKind) :
    (wiredRecord settings id kind).metrics = settings.layout.metricsFor kind.family := by
  simp [wiredRecord]

/-- The series of an entity that has just been wired are new. -/
theorem series?_wired_record {settings : Settings} {id : String} {kind : EntityKind}
    {metric : Metric} (h : metric ∈ (wiredRecord settings id kind).metrics) :
    (wiredRecord settings id kind).series? metric = some settings.layout.freshSeries := by
  rw [metrics_wired_record] at h
  rw [wiredRecord, EntityRecord.series?_mark_subscribed, EntityRecord.series?_fresh h]

/-- The record under an identifier has stayed as it is, or it is that of an entity that has just
been wired. -/
def Kept (settings : Settings) (before after : Engine) (id : String) : Prop :=
  after.registry.get? id = before.registry.get? id ∨
    before.registry.get? id = none ∧
      ∃ kind, after.registry.get? id = some (wiredRecord settings id kind)

variable {settings : Settings} {engine : Engine} {id other : String} {kind : EntityKind}

/-- A session before anything is wired. -/
theorem Listening.new (hmode : settings.mode = .push) : (new settings).Listening settings where
  mode := hmode
  settings_eq := rfl
  layout_eq := rfl
  announced := by simp [Engine.new, Registry.empty, Registry.get?]
  subscribed := by simp [Engine.new, Registry.empty, Registry.get?]
  metrics := by simp [Engine.new, Registry.empty, Registry.get?]
  routes := by simp [Engine.new, Registry.empty, Registry.get?, Subscriptions.route?]

/-- What is drawn and reported does not matter to a session that listens. -/
theorem Listening.of_eq {after : Engine} (h : engine.Listening settings)
    (hsettings : after.settings = engine.settings) (hregistry : after.registry = engine.registry)
    (hsubscriptions : after.subscriptions = engine.subscriptions) : after.Listening settings := by
  constructor
  · exact h.mode
  · exact hsettings.trans h.settings_eq
  · exact hregistry ▸ h.layout_eq
  · exact hregistry ▸ h.announced
  · exact hregistry ▸ h.subscribed
  · exact hregistry ▸ h.metrics
  · rw [hregistry, hsubscriptions]
    exact h.routes

/-- In a session that listens the registered entities are those that are wired. -/
theorem Listening.get?_of_not_wired (h : engine.Listening settings)
    (hwired : engine.isWired id = false) : engine.registry.get? id = none := by
  cases hrecord : engine.registry.get? id with
  | none => rfl
  | some record =>
      have hsubscribed := h.subscribed id record hrecord
      rw [is_wired_iff.mpr ⟨record, hrecord, hsubscribed⟩] at hwired
      cases hwired

/-! ## Wiring -/

/-- Wiring an entity registers it, and changes no record. -/
theorem Listening.get?_wire (h : engine.Listening settings) :
    (engine.wire id kind).registry.get? other =
      if other = id then some ((engine.registry.get? id).getD (wiredRecord settings id kind))
      else engine.registry.get? other := by
  cases hwired : engine.isWired id with
  | true =>
      obtain ⟨record, hrecord, _⟩ := is_wired_iff.mp hwired
      rw [wire_of_wired hwired]
      by_cases hother : other = id <;> simp [hother, hrecord]
  | false =>
      obtain ⟨_, _, _, hwire⟩ := wire_of_not_wired kind hwired
      rw [hwire, enlist, Registry.get?_enlist, h.get?_of_not_wired hwired, h.layout_eq]
      rfl

/-- Wiring an entity keeps the records. -/
theorem Listening.kept_wire (h : engine.Listening settings) (other : String) :
    Kept settings engine (engine.wire id kind) other := by
  rw [Kept, h.get?_wire]
  by_cases hother : other = id
  · subst hother
    cases hrecord : engine.registry.get? other with
    | none => exact Or.inr ⟨rfl, kind, by simp⟩
    | some record => exact Or.inl (by simp)
  · exact Or.inl (if_neg hother)

/-- Wiring an entity that is not wired adds its record. -/
theorem Listening.get?_wire_of_not_wired (h : engine.Listening settings)
    (hwired : engine.isWired id = false) :
    (engine.wire id kind).registry.get? other =
      if other = id then some (wiredRecord settings id kind) else engine.registry.get? other := by
  rw [h.get?_wire, h.get?_of_not_wired hwired, Option.getD_none]

/-- The stream of an entity that is not wired leads nowhere. -/
theorem Listening.route?_of_not_wired (h : engine.Listening settings)
    (hannounced : Announced id kind) (hwired : engine.isWired id = false) :
    engine.subscriptions.route? (kind.stream id) = none := by
  rw [Option.eq_none_iff_forall_ne_some]
  intro other hother
  -- An entity that listens to the stream would be this one.
  obtain ⟨record, hrecord, hstream⟩ := (h.routes _ other).mp hother
  obtain rfl := (h.announced other record hrecord).stream_inj hannounced hstream
  rw [h.get?_of_not_wired hwired] at hrecord
  cases hrecord

/-- Wiring an entity that is not wired lets its stream lead to it. -/
theorem Listening.route?_wire (h : engine.Listening settings) (hannounced : Announced id kind)
    (hwired : engine.isWired id = false) (stream : String) :
    (engine.wire id kind).subscriptions.route? stream =
      if stream = kind.stream id then some id else engine.subscriptions.route? stream := by
  have hmode : engine.settings.mode = .push := by rw [h.settings_eq, h.mode]
  rw [wire_of_push hmode hwired]
  exact Subscriptions.route?_subscribe (h.route?_of_not_wired hannounced hwired)

/-- After wiring an entity, each stream leads to the entity that listens to it. -/
theorem Listening.routes_wire (h : engine.Listening settings) (hannounced : Announced id kind)
    (hwired : engine.isWired id = false) (stream other : String) :
    (engine.wire id kind).subscriptions.route? stream = some other ↔
      ∃ record, (engine.wire id kind).registry.get? other = some record ∧
        record.kind.stream other = stream := by
  rw [h.route?_wire hannounced hwired, h.get?_wire_of_not_wired hwired]
  by_cases hother : other = id
  · subst hother
    have hroute : engine.subscriptions.route? stream ≠ some other := by
      rw [ne_eq, h.routes, h.get?_of_not_wired hwired]
      simp
    by_cases hstream : stream = kind.stream other
    · simp [hstream, wiredRecord]
    · simp [hstream, hroute, wiredRecord, Ne.symm hstream]
  · rw [if_neg hother, ← h.routes]
    split
    next hstream =>
      -- Nobody else can listen to the stream, as streams of different entities differ.
      have hnot : engine.subscriptions.route? stream ≠ some other := by
        intro hroute
        obtain ⟨record, hrecord, hsame⟩ := (h.routes stream other).mp hroute
        exact hother ((h.announced other record hrecord).stream_inj hannounced
          (hsame.trans hstream))
      simp [hnot, Ne.symm hother]
    next => exact Iff.rfl

/-- A session goes on listening when an announced entity is wired. -/
theorem Listening.wire (h : engine.Listening settings) (hannounced : Announced id kind) :
    (engine.wire id kind).Listening settings := by
  cases hwired : engine.isWired id with
  | true => rwa [wire_of_wired hwired]
  | false =>
      have hmode : engine.settings.mode = .push := by rw [h.settings_eq, h.mode]
      have hrecords (P : String → EntityRecord → Prop) (hnew : P id (wiredRecord settings id kind))
          (hold : ∀ other record, engine.registry.get? other = some record → P other record) :
          ∀ other record, (engine.wire id kind).registry.get? other = some record →
            P other record := by
        intro other record hrecord
        rw [h.get?_wire_of_not_wired hwired] at hrecord
        split at hrecord
        next hother =>
          subst hother
          exact Option.some.inj hrecord ▸ hnew
        next => exact hold other record hrecord
      constructor
      · exact h.mode
      · rw [settings_wire, h.settings_eq]
      · rw [wire_of_push hmode hwired, subscribe, enlist, Registry.layout_enlist, h.layout_eq]
      · exact hrecords _ hannounced h.announced
      · exact hrecords (fun _ record => record.subscribed) rfl h.subscribed
      · exact hrecords _ (metrics_wired_record settings id kind) h.metrics
      · exact h.routes_wire hannounced hwired

/-- A session listens once the configured aggregates are wired. -/
theorem Listening.start (hmode : settings.mode = .push) :
    (Engine.new settings).start.Listening settings := by
  have hwired (names : List String) : ((Engine.new settings).wireAll names).Listening settings := by
    induction names using List.reverseRecOn with
    | nil => exact .new hmode
    | append_singleton names name ih =>
        rw [wire_all_concat]
        exact ih.wire (.aggregate name)
  exact (hwired (configured settings)).of_eq rfl rfl rfl

/-! ## Events -/

/-- What is kept can be followed through a session in the middle. -/
theorem Kept.trans {before middle after : Engine} (h : Kept settings before middle id)
    (hmiddle : Kept settings middle after id) : Kept settings before after id := by
  rcases h with hsame | ⟨hnone, kind, hnew⟩
  · rw [Kept, ← hsame]
    exact hmiddle
  · rcases hmiddle with hsame | ⟨hmiddle, _⟩
    · exact Or.inr ⟨hnone, kind, hsame.trans hnew⟩
    · rw [hnew] at hmiddle
      cases hmiddle

/-- Children are wired one after the other. -/
theorem wire_children_eq (population : Discovery) :
    (engine.wireChildren population).1 = population.children.foldl (fun engine subId =>
      engine.wire (childId population.parent subId)
        (.concrete population.parent subId population.family)) engine := by
  rw [wireChildren]
  generalize population.children = children
  induction children using List.reverseRecOn with
  | nil => rfl
  | append_singleton children subId ih =>
      rw [List.foldl_concat, List.foldl_concat, ← ih]

/-- Wiring announced children keeps the records, and the session goes on listening. -/
theorem Listening.wire_children (h : engine.Listening settings) {population : Discovery}
    (hpopulation : ∀ subId, Announced (childId population.parent subId)
      (.concrete population.parent subId population.family)) :
    (engine.wireChildren population).1.Listening settings ∧
      ∀ id, Kept settings engine (engine.wireChildren population).1 id := by
  rw [wire_children_eq]
  induction population.children using List.reverseRecOn with
  | nil => exact ⟨h, fun _ => Or.inl rfl⟩
  | append_singleton children subId ih =>
      rw [List.foldl_concat]
      exact ⟨ih.1.wire (hpopulation subId), fun id => (ih.2 id).trans (ih.1.kept_wire id)⟩

/-- Beyond wiring its children, a population changes nothing but what waits, is drawn and is
reported. -/
theorem discover_eq (population : Discovery) :
    ∃ wired, (wired = engine ∨ wired = (engine.wireChildren population).1) ∧
      (engine.discover population).settings = wired.settings ∧
      (engine.discover population).registry = wired.registry ∧
      (engine.discover population).subscriptions = wired.subscriptions := by
  unfold discover
  split
  · refine ⟨_, Or.inr rfl, ?_⟩
    dsimp only
    split <;> exact ⟨rfl, rfl, rfl⟩
  · exact ⟨_, Or.inl rfl, rfl, rfl, rfl⟩

/-- An announced population keeps the records, and the session goes on listening. -/
theorem Listening.discover (h : engine.Listening settings) {population : Discovery}
    (hpopulation : ∀ subId, Announced (childId population.parent subId)
      (.concrete population.parent subId population.family)) :
    (engine.discover population).Listening settings ∧
      ∀ id, Kept settings engine (engine.discover population) id := by
  obtain ⟨wired, hwired, hsettings, hregistry, hsubscriptions⟩ := discover_eq population
  have hwired : wired.Listening settings ∧ ∀ id, Kept settings engine wired id := by
    rcases hwired with rfl | rfl
    · exact ⟨h, fun _ => Or.inl rfl⟩
    · exact h.wire_children hpopulation
  refine ⟨hwired.1.of_eq hsettings hregistry hsubscriptions, fun id => ?_⟩
  rw [Kept, hregistry]
  exact hwired.2 id

/-- Samples go into the record of the entity that listens to their stream, and into no other. -/
theorem Listening.get?_handle_sample (h : engine.Listening settings) (stream : String)
    (payload : Members Json) (id : String) :
    (engine.handleSample stream payload).registry.get? id =
      (engine.registry.get? id).map (·.hear settings.ranges (.sample stream payload)) := by
  have hheard (record) (hrecord : engine.registry.get? id = some record) :
      record.hear settings.ranges (.sample stream payload) =
        if engine.subscriptions.route? stream = some id then
          record.ingest settings.ranges payload record.metrics
        else record := by
    have hroute : stream = record.kind.stream record.id ↔
        engine.subscriptions.route? stream = some id := by
      rw [h.routes, Registry.id_of_get? hrecord, hrecord]
      simp [eq_comm]
    rw [EntityRecord.hear]
    simp only [hroute]
  rw [handleSample, Subscriptions.deliver]
  cases hroute : engine.subscriptions.route? stream with
  | none =>
      show engine.registry.get? id = _
      cases hrecord : engine.registry.get? id with
      | none => rfl
      | some record => simp [hheard record hrecord, hroute]
  | some target =>
      -- The stream leads to a registered entity, so the samples are stored.
      obtain ⟨found, hfound, _⟩ := (h.routes stream target).mp hroute
      simp only [Option.bind_eq_bind, Option.bind_some, hfound]
      show (engine.registry.modify target _).get? id = _
      rw [Registry.get?_modify, h.settings_eq]
      · cases hrecord : engine.registry.get? id with
        | none => simp
        | some record =>
            rw [Option.map_some, Option.map_some, hheard record hrecord, hroute]
            by_cases hid : id = target
            · rw [if_pos hid, if_pos (congrArg some hid.symm)]
            · rw [if_neg hid, if_neg fun htarget => hid (Option.some.inj htarget).symm]
      · exact fun record => (EntityRecord.SameEntity.ingest record record.metrics).id

/-- Samples leave a session as it is, except for what records hold and what is drawn. -/
theorem handle_sample_keeps (stream : String) (payload : Members Json) :
    (engine.handleSample stream payload).settings = engine.settings ∧
      (engine.handleSample stream payload).registry.layout = engine.registry.layout ∧
      (engine.handleSample stream payload).subscriptions = engine.subscriptions := by
  rw [handleSample]
  split
  next delivered hdelivered =>
    rw [Subscriptions.deliver] at hdelivered
    obtain ⟨id, _, hdelivered⟩ := Option.bind_eq_some_iff.mp hdelivered
    obtain ⟨record, _, hdelivered⟩ := Option.bind_eq_some_iff.mp hdelivered
    obtain rfl := Option.some.inj hdelivered
    exact ⟨rfl, rfl, rfl⟩
  next => exact ⟨rfl, rfl, rfl⟩

/-- A session goes on listening when samples arrive. -/
theorem Listening.handle_sample (h : engine.Listening settings) (stream : String)
    (payload : Members Json) : (engine.handleSample stream payload).Listening settings := by
  obtain ⟨hsettings, hlayout, hsubscriptions⟩ := @handle_sample_keeps engine stream payload
  have hold (id) (record) (hrecord : (engine.handleSample stream payload).registry.get? id =
      some record) :
      ∃ old, engine.registry.get? id = some old ∧ EntityRecord.SameEntity record old := by
    rw [h.get?_handle_sample] at hrecord
    obtain ⟨old, hfound, rfl⟩ := Option.map_eq_some_iff.mp hrecord
    exact ⟨old, hfound, .hear old _⟩
  constructor
  · exact h.mode
  · exact hsettings.trans h.settings_eq
  · exact hlayout.trans h.layout_eq
  · intro id record hrecord
    obtain ⟨old, hfound, hsame⟩ := hold id record hrecord
    rw [hsame.kind]
    exact h.announced id old hfound
  · intro id record hrecord
    obtain ⟨old, hfound, hsame⟩ := hold id record hrecord
    rw [hsame.subscribed]
    exact h.subscribed id old hfound
  · intro id record hrecord
    obtain ⟨old, hfound, hsame⟩ := hold id record hrecord
    rw [hsame.metrics, hsame.kind]
    exact h.metrics id old hfound
  · intro stream other
    rw [hsubscriptions, h.routes, h.get?_handle_sample]
    constructor
    · rintro ⟨record, hrecord, hstream⟩
      refine ⟨_, congrArg (Option.map _) hrecord, ?_⟩
      rwa [(EntityRecord.SameEntity.hear record _).kind]
    · rintro ⟨_, hrecord, hstream⟩
      obtain ⟨old, hfound, rfl⟩ := Option.map_eq_some_iff.mp hrecord
      refine ⟨old, hfound, ?_⟩
      rwa [(EntityRecord.SameEntity.hear old _).kind] at hstream

/-- A session goes on listening whatever event it handles. -/
theorem Listening.handle_event (h : engine.Listening settings) {event : StreamEvent}
    (hevent : event.Decoded) : (engine.handleEvent event).Listening settings := by
  cases event with
  | sample stream payload => exact h.handle_sample stream payload
  | discovery population => exact (h.discover hevent.announced).1

/-- An event either brings samples to the record under an identifier, or adds that record. -/
theorem Listening.get?_handle_event (h : engine.Listening settings) {event : StreamEvent}
    (hevent : event.Decoded) (id : String) :
    (engine.handleEvent event).registry.get? id =
        (engine.registry.get? id).map (·.hear settings.ranges event) ∨
      engine.registry.get? id = none ∧
        ∃ kind, (engine.handleEvent event).registry.get? id =
          some (wiredRecord settings id kind) := by
  cases event with
  | sample stream payload => exact Or.inl (h.get?_handle_sample stream payload id)
  | discovery population =>
      rcases (h.discover hevent.announced).2 id with hsame | hnew
      · refine Or.inl (hsame.trans ?_)
        exact Option.map_id'.symm
      · exact Or.inr hnew

/-! ## Runs -/

/-- Handle events in order. -/
def handleAll (engine : Engine) (events : List StreamEvent) : Engine :=
  events.foldl handleEvent engine

/-- Of events in order, those that are handled while an entity is wired. -/
def heard (engine : Engine) (id : String) : List StreamEvent → List StreamEvent
  | [] => []
  | event :: events =>
    if engine.isWired id then event :: events else (engine.handleEvent event).heard id events

variable {events : List StreamEvent}

/-- A registered entity hears all events. -/
theorem Listening.get?_handle_all (h : engine.Listening settings)
    (hevents : ∀ event ∈ events, event.Decoded) {record : EntityRecord}
    (hrecord : engine.registry.get? id = some record) :
    (engine.handleAll events).registry.get? id = some (record.hearAll settings.ranges events) := by
  induction events generalizing engine record with
  | nil => exact hrecord
  | cons event events ih =>
      rw [List.forall_mem_cons] at hevents
      have hnext : (engine.handleEvent event).registry.get? id =
          some (record.hear settings.ranges event) := by
        rcases h.get?_handle_event hevents.1 id with hsame | ⟨hnone, _⟩
        · rw [hsame, hrecord, Option.map_some]
        · rw [hrecord] at hnone
          cases hnone
      exact ih (h.handle_event hevents.1) hevents.2 hnext

/-- A record is what its entity heard since it was wired, if that was in the run, or since the
beginning. -/
theorem Listening.record_of_heard (h : engine.Listening settings)
    (hevents : ∀ event ∈ events, event.Decoded) {record : EntityRecord}
    (hrecord : (engine.handleAll events).registry.get? id = some record) :
    ∃ first, record = first.hearAll settings.ranges (engine.heard id events) ∧
      (engine.registry.get? id = some first ∨
        engine.registry.get? id = none ∧ ∃ kind, first = wiredRecord settings id kind) := by
  induction events generalizing engine with
  | nil => exact ⟨record, rfl, Or.inl hrecord⟩
  | cons event events ih =>
      rw [heard]
      cases hwired : engine.isWired id with
      | true =>
          obtain ⟨first, hfirst, _⟩ := is_wired_iff.mp hwired
          refine ⟨first, ?_, Or.inl hfirst⟩
          rw [h.get?_handle_all hevents hfirst] at hrecord
          exact (Option.some.inj hrecord).symm
      | false =>
          have hnone := h.get?_of_not_wired hwired
          rw [List.forall_mem_cons] at hevents
          obtain ⟨first, hfirst, hwas⟩ := ih (h.handle_event hevents.1) hevents.2 hrecord
          refine ⟨first, hfirst, Or.inr ⟨hnone, ?_⟩⟩
          rcases hwas with hsome | ⟨_, hnew⟩
          · -- Whatever record the event left here, it is new.
            rcases h.get?_handle_event hevents.1 id with hsame | ⟨_, kind, hkind⟩
            · rw [hsame, hnone] at hsome
              cases hsome
            · exact ⟨kind, Option.some.inj (hsome.symm.trans hkind)⟩
          · exact hnew

/-- A series holds the last of the samples of its metric, clamped, that the events since its entity
was wired brought on the stream of the entity, after what the series held at first. -/
theorem series_of_heard (hmode : settings.mode = .push)
    (hwatcher : settings.layout.watcherMetrics.Nodup)
    (hsocket : settings.layout.socketMetrics.Nodup) (hevents : ∀ event ∈ events, event.Decoded)
    {record : EntityRecord} {metric : Metric}
    (hrecord : ((new settings).start.handleAll events).registry.get? id = some record)
    (hmetric : metric ∈ record.metrics) :
    record.series? metric = some ⟨settings.layout.capacity,
      lastItems settings.layout.capacity (settings.layout.initial ++
        ((new settings).start.heard id events).filterMap
          (·.sampleOn? settings.ranges (record.kind.stream id) metric))⟩ := by
  have hstart : (new settings).start.Listening settings := .start hmode
  obtain ⟨first, rfl, hwas⟩ := hstart.record_of_heard hevents hrecord
  obtain ⟨kind, rfl⟩ : ∃ kind, first = wiredRecord settings id kind := by
    rcases hwas with hfirst | ⟨_, hnew⟩
    · have hlookup : (new settings).start.registry.get? id = _ := get?_wire_configured settings id
      rw [hlookup] at hfirst
      split at hfirst
      · exact ⟨_, (Option.some.inj hfirst).symm⟩
      · cases hfirst
    · exact hnew
  have hsame : ((wiredRecord settings id kind).hearAll settings.ranges
      ((new settings).start.heard id events)).SameEntity (wiredRecord settings id kind) :=
    .hear_all _ _
  have hnodup : (wiredRecord settings id kind).metrics.Nodup := by
    rw [metrics_wired_record]
    cases kind.family with
    | watcher => exact hwatcher
    | socket => exact hsocket
  rw [hsame.metrics] at hmetric
  rw [EntityRecord.series?_hear_all hnodup hmetric, series?_wired_record hmetric, Option.map_some,
    hsame.kind, Series.extend_eq settings.layout.fits_fresh_series, SeriesLayout.fresh_series_eq]
  rfl

/-- The processes of `db` are charted, with two samples for each metric. -/
def pairsOfDb : Settings :=
  { watchersWithPids := ["db"], layout := { capacity := 2, prefill := true } }

/-- Samples of a process before and after it is announced. -/
def eventsOfDb : List StreamEvent :=
  [.sample "stats-db-7" [("cpu", .number (.integer 1))],
    .discovery ⟨.watcher, "db", ["7"]⟩,
    .sample "stats-db-7" [("cpu", .number (.integer 150)), ("mem", .null)],
    .sample "stats-db-7" [("cpu", .string "7")]]

/-- Texts of frames say those events. -/
theorem decoded_of_mem_events_of_db : ∀ event ∈ eventsOfDb, event.Decoded := by
  rw [eventsOfDb]
  simp only [List.forall_mem_cons]
  refine ⟨⟨"\x7b\"name\":\"stats-db-7\",\"args\":\x7b\"cpu\":1\x7d\x7d", ?_⟩,
    ⟨"\x7b\"name\":\"stats-db-pids\",\"args\":\x7b\"pids\":[7]\x7d\x7d", ?_⟩,
    ⟨"\x7b\"name\":\"stats-db-7\",\"args\":\x7b\"cpu\":150,\"mem\":null\x7d\x7d", ?_⟩,
    ⟨"\x7b\"name\":\"stats-db-7\",\"args\":\x7b\"cpu\":\"7\"\x7d\x7d", ?_⟩, List.forall_mem_nil _⟩
  <;> decide +kernel

/-- The first sample came too early, and the second one is clamped. -/
theorem series_of_heard_process :
    ∃ record, ((new pairsOfDb).start.handleAll eventsOfDb).registry.get? "db-7" = some record ∧
      record.series? .cpu = some ⟨2, [.ofInt 100, .ofInt 7]⟩ := by
  have hwatcher : pairsOfDb.layout.watcherMetrics.Nodup := by decide
  have hsocket : pairsOfDb.layout.socketMetrics.Nodup := by decide
  have hrecord : ((new pairsOfDb).start.handleAll eventsOfDb).registry.get? "db-7" = some _ := rfl
  refine ⟨_, hrecord, ?_⟩
  rw [series_of_heard rfl hwatcher hsocket decoded_of_mem_events_of_db hrecord (by decide)]
  decide +kernel

end StatsBoard.Engine
