import StatsBoard.Proofs.Growth
import StatsBoard.Proofs.History.Polling
import StatsBoard.Proofs.Stream.Drawing

/-!
# What can be done with a session

A session that listens is started and handles events; one that polls wires the configured
aggregates, makes requests and handles their ends. Here all of that can be done in any order and
with any arguments. Each operation keeps the settings, lets the registry grow and draws records as
they are afterwards (`advances_perform`), so that nothing that was registered is ever lost:
`registry_only_accumulates`.
-/

namespace StatsBoard

/-- What can be done with a session, in either mode. -/
inductive Operation where
  | wire (id : String) (kind : EntityKind)
  | wireConfigured
  | start
  | handleEvent (event : StreamEvent)
  | planFetches
  | handleFetched (request : FetchRequest) (result : FetchResult)

namespace Engine

/-- Do something with a session. -/
def perform (engine : Engine) : Operation → Engine
  | .wire id kind => engine.wire id kind
  | .wireConfigured => engine.wireConfigured
  | .start => engine.start
  | .handleEvent event => engine.handleEvent event
  | .planFetches => engine.planFetches
  | .handleFetched request result => engine.handleFetched request result

/-- What operations, in order, make of a session that has just begun. -/
def reached (settings : Settings) (operations : List Operation) : Engine :=
  operations.foldl perform (new settings)

variable {before middle after : Engine} {settings : Settings}

/-! ## Steps that draw nothing -/

/-- A session goes on with the same settings and a registry that has grown, and draws nothing. -/
structure GrowsUnseen (before after : Engine) : Prop where
  settings_eq : after.settings = before.settings
  registry : before.registry.Grows before.settings.ranges after.registry
  frames : after.frames = before.frames

/-- The settings and the registry stay as they are, and nothing is drawn. -/
theorem GrowsUnseen.of_eq (hsettings : after.settings = before.settings)
    (hregistry : after.registry = before.registry) (hframes : after.frames = before.frames) :
    before.GrowsUnseen after :=
  ⟨hsettings, hregistry ▸ .refl _, hframes⟩

/-- A session can go on in two parts. -/
theorem GrowsUnseen.trans (h : before.GrowsUnseen middle) (hmiddle : middle.GrowsUnseen after) :
    before.GrowsUnseen after where
  settings_eq := hmiddle.settings_eq.trans h.settings_eq
  registry := h.registry.trans (h.settings_eq ▸ hmiddle.registry)
  frames := hmiddle.frames.trans h.frames

/-- Wiring an entity enlists it, if anything. -/
theorem GrowsUnseen.wire (engine : Engine) (id : String) (kind : EntityKind) :
    engine.GrowsUnseen (engine.wire id kind) where
  settings_eq := settings_wire
  registry := by
    cases hwired : engine.isWired id with
    | true =>
        rw [wire_of_wired hwired]
        exact .refl _
    | false =>
        obtain ⟨_, _, _, hwire⟩ := wire_of_not_wired kind hwired
        rw [hwire]
        exact .enlist engine.registry id kind
  frames := frames_wire

/-- Entities are wired one after the other. -/
theorem GrowsUnseen.wire_each (engine : Engine) (entities : List (String × EntityKind)) :
    engine.GrowsUnseen (engine.wireEach entities) := by
  induction entities using List.reverseRecOn with
  | nil => exact .of_eq rfl rfl rfl
  | append_singleton entities last ih =>
      rw [wire_each_concat]
      exact ih.trans (.wire _ last.1 last.2)

/-- What a request ended with is stored part by part. -/
theorem GrowsUnseen.store (engine : Engine) (request : FetchRequest) (result : FetchResult) :
    engine.GrowsUnseen (engine.store request result) where
  settings_eq := rfl
  registry := by
    rw [registry_store]
    exact .foldl_receive engine.registry _
  frames := rfl

/-! ## Steps that draw -/

/-- A session goes on with the same settings and a registry that has grown, and draws records as
they are afterwards. -/
structure Advances (before after : Engine) : Prop where
  settings_eq : after.settings = before.settings
  registry : before.registry.Grows before.settings.ranges after.registry
  frames : ∃ drawn : List EntityRecord, (∀ record ∈ drawn, record ∈ after.registry.records) ∧
    after.frames = before.frames ++ drawn.map (·.frame before.settings.palette)

/-- A session that draws nothing goes on by drawing no record. -/
theorem GrowsUnseen.advances (h : before.GrowsUnseen after) : before.Advances after :=
  ⟨h.settings_eq, h.registry, [], List.forall_mem_nil _,
    h.frames.trans (List.append_nil _).symm⟩

/-- A flush draws registered records. -/
theorem GrowsUnseen.flush_where (h : before.GrowsUnseen after) (wanted : EntityRecord → Bool) :
    before.Advances (after.flushWhere wanted) where
  settings_eq := h.settings_eq
  registry := h.registry
  frames := by
    refine ⟨after.redraw.due after.registry wanted, fun record hrecord => ?_, ?_⟩
    · exact (Redraw.mem_due.mp hrecord).1
    · rw [frames_flush_where, h.frames, h.settings_eq]

/-- Drawing one entity draws its record, if it has one. -/
theorem GrowsUnseen.flush_entity (h : before.GrowsUnseen after) (id : String) :
    before.Advances (after.flushEntity id) where
  settings_eq := h.settings_eq
  registry := h.registry
  frames := by
    refine ⟨(after.registry.get? id).toList, fun record hrecord => ?_, ?_⟩
    · exact Registry.mem_of_get? (Option.mem_toList.mp hrecord)
    · rw [flushEntity, Engine.drawn, Redraw.flushEntity, h.frames, h.settings_eq]
      cases after.registry.get? id <;> rfl

/-- The configured aggregates are wired one after the other. -/
theorem wire_configured_eq_wire_each (engine : Engine) : engine.wireConfigured =
    (engine.wireEach ((configured engine.settings).map fun name =>
      (name, EntityKind.ofAggregate name))).flush := by
  rw [wireConfigured, wireEach, List.foldl_map]

/-- The configured aggregates are wired and then drawn. -/
theorem Advances.wire_configured (engine : Engine) : engine.Advances engine.wireConfigured := by
  rw [wire_configured_eq_wire_each]
  exact (GrowsUnseen.wire_each engine _).flush_where fun _ => true

/-- Samples go into the record to which their stream leads, and the record is drawn. -/
theorem Advances.handle_sample (engine : Engine) (stream : String) (payload : Members Json) :
    engine.Advances (engine.handleSample stream payload) := by
  rw [handleSample]
  split
  next delivered hdelivered =>
    rw [Subscriptions.deliver] at hdelivered
    obtain ⟨id, _, hdelivered⟩ := Option.bind_eq_some_iff.mp hdelivered
    obtain ⟨record, _, hdelivered⟩ := Option.bind_eq_some_iff.mp hdelivered
    obtain rfl := Option.some.inj hdelivered
    have hstored (log : List LogEvent) : engine.GrowsUnseen { engine with
        registry := engine.registry.modify id fun record =>
          record.ingest engine.settings.ranges payload record.metrics
        log := log } :=
      ⟨rfl, .modify engine.registry id fun record => .ingest record record.metrics, rfl⟩
    exact (hstored _).flush_entity id
  next => exact GrowsUnseen.advances (.of_eq rfl rfl rfl)

/-- An announced population is wired and then drawn. -/
theorem Advances.discover (engine : Engine) (population : Discovery) :
    engine.Advances (engine.discover population) := by
  have hwired := GrowsUnseen.wire_each engine population.entities
  rw [← wire_children_eq_wire_each] at hwired
  unfold Engine.discover
  split
  · dsimp only
    split
    · exact hwired.advances
    · have hreported (events : List LogEvent) :
          engine.GrowsUnseen ((engine.wireChildren population).1.report events) :=
        hwired.trans (.of_eq rfl rfl rfl)
      exact (hreported _).flush_where fun _ => true
  · exact GrowsUnseen.advances (.of_eq rfl rfl rfl)

/-- What a request ended with is stored and, with the last outstanding request, drawn. -/
theorem Advances.handle_fetched (engine : Engine) (request : FetchRequest) (result : FetchResult) :
    engine.Advances (engine.handleFetched request result) := by
  have hstored := GrowsUnseen.store engine request result
  rw [handleFetched]
  split
  · exact hstored.flush_where _
  · exact hstored.advances

/-- Whatever is done with a session lets its registry grow and draws records as they are
afterwards. -/
theorem advances_perform (engine : Engine) (operation : Operation) :
    engine.Advances (engine.perform operation) := by
  cases operation with
  | wire id kind => exact (GrowsUnseen.wire engine id kind).advances
  | wireConfigured => exact .wire_configured engine
  | start =>
      obtain ⟨hsettings, hregistry, hframes⟩ := Advances.wire_configured engine
      exact ⟨hsettings, hregistry, hframes⟩
  | handleEvent event =>
      cases event with
      | sample stream payload => exact .handle_sample engine stream payload
      | discovery population => exact .discover engine population
  | planFetches => exact GrowsUnseen.advances (.of_eq rfl rfl rfl)
  | handleFetched request result => exact .handle_fetched engine request result

/-! ## Operations in order -/

variable {operations earlier : List Operation} {operation : Operation}

/-- The last operation is done after the others. -/
theorem reached_concat : reached settings (operations ++ [operation]) =
    (reached settings operations).perform operation := by
  rw [reached, List.foldl_concat, ← reached]

/-- No operation changes the settings. -/
theorem settings_reached (settings : Settings) (operations : List Operation) :
    (reached settings operations).settings = settings := by
  induction operations using List.reverseRecOn with
  | nil => rfl
  | append_singleton operations operation ih =>
      rw [reached_concat, (advances_perform _ operation).settings_eq, ih]

/-- Later operations let the registry grow. -/
theorem grows_reached (settings : Settings) (earlier later : List Operation) :
    (reached settings earlier).registry.Grows settings.ranges
      (reached settings (earlier ++ later)).registry := by
  induction later using List.reverseRecOn with
  | nil =>
      rw [List.append_nil]
      exact .refl _
  | append_singleton later operation ih =>
      have hlast := (advances_perform (reached settings (earlier ++ later)) operation).registry
      rw [settings_reached] at hlast
      rw [← List.append_assoc, reached_concat]
      exact ih.trans hlast

/-- No two records have the same identifier. -/
theorem nodup_reached (settings : Settings) (operations : List Operation) :
    (reached settings operations).registry.ids.Nodup :=
  (grows_reached settings [] operations).nodup List.nodup_nil

/-- Each record has grown from a new one. -/
theorem grown_from_fresh {record : EntityRecord}
    (hrecord : record ∈ (reached settings operations).registry.records) :
    ∃ kind, (EntityRecord.fresh settings.layout record.id kind).Grows settings.ranges record :=
  (grows_reached settings [] operations).added record.id record rfl
    (Registry.get?_of_mem (nodup_reached settings operations) hrecord)

/-- Each frame is that of a record as it was at some moment. -/
theorem drawn_at_some_moment {frame : EntityFrame}
    (hframe : frame ∈ (reached settings operations).frames) :
    ∃ earlier, earlier <+: operations ∧ ∃ record ∈ (reached settings earlier).registry.records,
      frame = record.frame settings.palette := by
  induction operations using List.reverseRecOn with
  | nil => exact absurd hframe List.not_mem_nil
  | append_singleton operations operation ih =>
      obtain ⟨drawn, hdrawn, hframes⟩ :=
        (advances_perform (reached settings operations) operation).frames
      rw [reached_concat, hframes, settings_reached, List.mem_append] at hframe
      rcases hframe with hframe | hframe
      · obtain ⟨earlier, hearlier, hrecord⟩ := ih hframe
        exact ⟨earlier, hearlier.trans (List.prefix_append ..), hrecord⟩
      · obtain ⟨record, hrecord, rfl⟩ := List.mem_map.mp hframe
        refine ⟨operations ++ [operation], List.prefix_refl _, record, ?_, rfl⟩
        rw [reached_concat]
        exact hdrawn record hrecord

/-- The series of every record are new series that were given usable samples. -/
theorem series_of_reached {record : EntityRecord}
    (hrecord : record ∈ (reached settings operations).registry.records) {entry : Metric × Series}
    (hentry : entry ∈ record.series) :
    ∃ samples, (∀ sample ∈ samples, settings.ranges.Yields entry.1 sample) ∧
      entry.2 = settings.layout.freshSeries.extend samples := by
  obtain ⟨kind, hgrows⟩ := grown_from_fresh hrecord
  exact hgrows.series_of_fresh hentry

/-- The series of every record fit. -/
theorem fits_of_reached {record : EntityRecord}
    (hrecord : record ∈ (reached settings operations).registry.records) {entry : Metric × Series}
    (hentry : entry ∈ record.series) : entry.2.Fits := by
  obtain ⟨samples, -, hseries⟩ := series_of_reached hrecord hentry
  rw [hseries]
  exact settings.layout.fits_fresh_series.extend samples

/-- Whatever is done with a session, in any order: no identifier is listed twice, the record found
under an identifier is the one that has it, later operations list further identifiers at the end
only, and the place at which an entity was registered goes on leading to its record. A record keeps
its identifier, kind, metrics, mark and the capacities of its series, and none of its series ever
gets shorter. -/
theorem registry_only_accumulates (settings : Settings) (earlier later : List Operation) :
    (reached settings earlier).registry.ids.Nodup ∧
    (∀ id record, (reached settings earlier).registry.get? id = some record ↔
      record ∈ (reached settings earlier).registry.records ∧ record.id = id) ∧
    (reached settings earlier).registry.ids <+: (reached settings (earlier ++ later)).registry.ids ∧
    (∀ id place, (reached settings earlier).registry.place? id = some place →
      (reached settings (earlier ++ later)).registry.get? id =
        (reached settings (earlier ++ later)).registry.records[place]?) ∧
    ∀ record ∈ (reached settings earlier).registry.records, ∃ grown,
      (reached settings (earlier ++ later)).registry.get? record.id = some grown ∧
      grown.id = record.id ∧ grown.kind = record.kind ∧ grown.metrics = record.metrics ∧
      (record.subscribed → grown.subscribed) ∧
      List.Forall₂ (fun before after => after.2.capacity = before.2.capacity ∧
        before.2.samples.length ≤ after.2.samples.length) record.series grown.series := by
  have hnodup := nodup_reached settings earlier
  have hgrows := grows_reached settings earlier later
  refine ⟨hnodup, ?found, hgrows.ids, fun id place => hgrows.get?_of_place, ?kept⟩
  case found =>
    intro id record
    constructor
    · exact fun hrecord => ⟨Registry.mem_of_get? hrecord, Registry.id_of_get? hrecord⟩
    · rintro ⟨hrecord, rfl⟩
      exact Registry.get?_of_mem hnodup hrecord
  case kept =>
    intro record hrecord
    obtain ⟨grown, hgrown, hsame⟩ :=
      hgrows.kept record.id record (Registry.get?_of_mem hnodup hrecord)
    refine ⟨grown, hgrown, hsame.id, hsame.kind, hsame.metrics, hsame.subscribed, ?_⟩
    -- Samples are only ever added, and a series that fits does not shrink when some are.
    have hfits : ∀ entry ∈ record.series, entry.2.Fits := fun _ => fits_of_reached hrecord
    refine ((List.forall₂_and_left _ _).mpr ⟨hfits, hsame.series⟩).imp ?_
    rintro before _ ⟨hbefore, samples, -, rfl⟩
    exact ⟨Series.capacity_extend samples, hbefore.length_le_extend samples⟩

end Engine

end StatsBoard
