import StatsBoard.Config.Basic
import StatsBoard.Proofs.Samples

/-!
# How often a sample is stored

A payload is stored metric by metric, and a metric leads to the first series that is kept for it.
So if a metric is listed several times, its sample goes into the first of its series as many times,
and into the others never (`EntityRecord.getElem?_ingest`). Where it is listed once, a message on
the stream of an entity is one data point: `stored_at_each_place`.
-/

namespace StatsBoard

/-! ## One payload and one record -/

/-- A sample, if there is one, repeated. -/
def repeated (times : Nat) (sample : Option Binary64) : List Binary64 :=
  sample.toList.flatMap (List.replicate times)

/-- A sample can be repeated in two parts. -/
theorem repeated_add (first second : Nat) (sample : Option Binary64) :
    repeated (first + second) sample = repeated first sample ++ repeated second sample := by
  cases sample with
  | none => rfl
  | some sample => simp [repeated, List.replicate_append_replicate]

/-- A sample that is not repeated at all. -/
theorem repeated_zero (sample : Option Binary64) : repeated 0 sample = [] := by
  cases sample <;> rfl

/-- A sample by itself. -/
theorem repeated_one (sample : Option Binary64) : repeated 1 sample = sample.toList := by
  cases sample <;> rfl

/-- How often a place of a list of metrics is meant when metrics are asked for: as often as the
metric is asked for, if it has no place before. -/
def timesMeant (listed asked : List Metric) (place : Nat) (metric : Metric) : Nat :=
  if metric ∈ listed.take place then 0 else asked.count metric

/-- One metric that is asked for means its first place, once. -/
theorem times_meant_singleton (listed : List Metric) (place : Nat) (asked metric : Metric) :
    timesMeant listed [asked] place metric =
      if metric = asked ∧ asked ∉ listed.take place then 1 else 0 := by
  rw [timesMeant, List.count_singleton]
  by_cases hmetric : metric = asked
  · subst hmetric
    by_cases hbefore : metric ∈ listed.take place <;> simp [hbefore]
  · simp [hmetric, Ne.symm hmetric]

/-- Metrics can be asked for one after the other. -/
theorem times_meant_cons (listed asked : List Metric) (place : Nat) (first metric : Metric) :
    timesMeant listed (first :: asked) place metric =
      timesMeant listed [first] place metric + timesMeant listed asked place metric := by
  rw [timesMeant, timesMeant, timesMeant]
  split
  · rfl
  · rw [← List.singleton_append, List.count_append]

/-- A metric that is listed once is meant once at its place. -/
theorem times_meant_of_count {listed : List Metric} {place : Nat} {metric : Metric}
    (hplace : listed[place]? = some metric) (hcount : listed.count metric = 1) :
    timesMeant listed listed place metric = 1 := by
  obtain ⟨hlength, hmetric⟩ := List.getElem?_eq_some_iff.mp hplace
  have hsplit : listed.count metric =
      (listed.take place).count metric + (listed.drop place).count metric := by
    rw [← List.count_append, List.take_append_drop]
  have hrest : 0 < (listed.drop place).count metric := by
    rw [List.count_pos_iff, List.drop_eq_getElem_cons hlength, hmetric]
    exact List.mem_cons_self
  have hnone : (listed.take place).count metric = 0 := by omega
  rw [timesMeant, if_neg (List.count_eq_zero.mp hnone), hcount]

namespace EntityRecord

variable {ranges : Ranges} {payload : Members Json} {metric : Metric} {change : Series → Series}
  {record : EntityRecord} {place : Nat}

/-- A change reaches the place of its metric that has no other one before. -/
theorem getElem?_modify_first (series : List (Metric × Series)) (place : Nat) :
    (modifyFirst metric change series)[place]? = series[place]?.map fun entry =>
      if entry.1 = metric ∧ metric ∉ (series.map (·.1)).take place then (entry.1, change entry.2)
      else entry := by
  induction series generalizing place with
  | nil => rfl
  | cons entry rest ih =>
      obtain ⟨m, series⟩ := entry
      rw [modifyFirst]
      cases place with
      | zero => by_cases hm : m = metric <;> simp [hm]
      | succ place =>
          rw [List.map_cons, List.take_succ_cons, List.getElem?_cons_succ]
          by_cases hm : m = metric
          · subst hm
            rw [if_pos rfl, List.getElem?_cons_succ]
            simp
          · rw [if_neg hm, List.getElem?_cons_succ, ih]
            simp [Ne.symm hm]

/-- The sample of one metric is stored once, at the first place of the metric. -/
theorem getElem?_ingest_one (ranges : Ranges) (payload : Members Json) (record : EntityRecord)
    (metric : Metric) (place : Nat) :
    (record.ingestOne ranges payload metric).series[place]? = record.series[place]?.map fun entry =>
      (entry.1, entry.2.extend (repeated (timesMeant record.metrics [metric] place entry.1)
        (ranges.payloadSample? payload entry.1))) := by
  rcases ingest_one_cases ranges payload record metric with
    ⟨hsample, hrecord⟩ | ⟨sample, hsample, hrecord⟩
  · -- Nothing is stored, and what is added is empty for this metric and for all others.
    have hnothing (entry : Metric × Series) :
        repeated (timesMeant record.metrics [metric] place entry.1)
          (ranges.payloadSample? payload entry.1) = [] := by
      rw [times_meant_singleton]
      split
      next hmeant =>
        rw [hmeant.1, hsample]
        rfl
      next => exact repeated_zero _
    simp only [hrecord, hnothing]
    exact Option.map_id'.symm
  · rw [hrecord, modifySeries, getElem?_modify_first, ← metrics]
    refine congrArg (Option.map · _) (funext fun entry => ?_)
    rw [times_meant_singleton]
    split
    next hmeant =>
      rw [hmeant.1, hsample, repeated_one]
      rfl
    next =>
      rw [repeated_zero]
      rfl

/-- Each place of a record gets the sample of its metric as often as it is meant. -/
theorem getElem?_ingest (ranges : Ranges) (payload : Members Json) (record : EntityRecord)
    (asked : List Metric) (place : Nat) :
    (record.ingest ranges payload asked).series[place]? = record.series[place]?.map fun entry =>
      (entry.1, entry.2.extend (repeated (timesMeant record.metrics asked place entry.1)
        (ranges.payloadSample? payload entry.1))) := by
  induction asked generalizing record with
  | nil =>
      have hnever (metric : Metric) : timesMeant record.metrics [] place metric = 0 := by
        simp [timesMeant]
      simp only [hnever, repeated_zero]
      exact Option.map_id'.symm
  | cons first asked ih =>
      have hmetrics : (record.ingestOne ranges payload first).metrics = record.metrics :=
        (SameEntity.ingest record [first]).metrics
      rw [ingest_cons, ih, hmetrics, getElem?_ingest_one, Option.map_map]
      refine congrArg (Option.map · _) (funext fun entry => ?_)
      rw [Function.comp_apply, times_meant_cons record.metrics asked, repeated_add,
        Series.extend_append]

end EntityRecord

/-! ## Streams lead to records -/

namespace Subscriptions

/-- A stream leads where it led before, or to the entity that listens from now on. -/
theorem route?_subscribe_cases {subscriptions : Subscriptions} {stream id target : String}
    {kind : EntityKind} (h : (subscriptions.subscribe id kind).route? stream = some target) :
    subscriptions.route? stream = some target ∨ target = id := by
  rw [subscribe] at h
  split at h
  · exact .inl h
  · simp only [route?, List.find?_append, List.find?_singleton] at h
    cases hold : subscriptions.routes.find? (·.1 == stream) with
    | some route =>
        rw [hold, Option.some_or] at h
        rw [route?, hold]
        exact .inl h
    | none =>
        rw [hold, Option.none_or] at h
        split at h
        · exact .inr (Option.some.inj h).symm
        · cases h

end Subscriptions

namespace Engine

variable {before after engine : Engine} {settings : Settings} {operations : List Operation}
  {stream id : String}

/-- Streams lead to registered entities only. -/
def RoutesRegistered (engine : Engine) : Prop :=
  ∀ stream id, engine.subscriptions.route? stream = some id → id ∈ engine.registry.ids

/-- Registered entities stay registered. -/
theorem RoutesRegistered.of_prefix (h : before.RoutesRegistered)
    (hids : before.registry.ids <+: after.registry.ids)
    (hsubscriptions : after.subscriptions = before.subscriptions) : after.RoutesRegistered := by
  intro stream id hroute
  rw [hsubscriptions] at hroute
  exact hids.subset (h stream id hroute)

/-- An entity is registered before it listens to its stream. -/
theorem RoutesRegistered.wire (h : engine.RoutesRegistered) (id : String) (kind : EntityKind) :
    (engine.wire id kind).RoutesRegistered := by
  cases hwired : engine.isWired id with
  | true => rwa [wire_of_wired hwired]
  | false =>
      rw [Engine.wire, hwired, if_neg Bool.false_ne_true]
      split
      · intro stream target hroute
        rcases Subscriptions.route?_subscribe_cases hroute with hold | rfl
        · exact Registry.ids_prefix_enlist.subset (h stream target hold)
        · exact Registry.mem_ids_enlist
      · split
        · exact h.of_prefix Registry.ids_prefix_enlist rfl
        · exact h.of_prefix Registry.ids_prefix_enlist rfl

/-- Entities are registered and listen one after the other. -/
theorem RoutesRegistered.wire_each (h : engine.RoutesRegistered)
    (entities : List (String × EntityKind)) : (engine.wireEach entities).RoutesRegistered := by
  induction entities using List.reverseRecOn with
  | nil => exact h
  | append_singleton entities last ih =>
      rw [wire_each_concat]
      exact ih.wire last.1 last.2

/-- The configured aggregates are registered and listen. -/
theorem RoutesRegistered.wire_configured (h : engine.RoutesRegistered) :
    engine.wireConfigured.RoutesRegistered := by
  rw [wire_configured_eq_wire_each]
  exact h.wire_each _

/-- An announced population is registered and listens. -/
theorem RoutesRegistered.discover (h : engine.RoutesRegistered) (population : Discovery) :
    (engine.discover population).RoutesRegistered := by
  have hwired : (engine.wireChildren population).1.RoutesRegistered := by
    rw [wire_children_eq_wire_each]
    exact h.wire_each population.entities
  unfold Engine.discover
  split
  · dsimp only
    split
    · exact hwired
    · exact hwired
  · exact h

/-- Nothing that is done with a session leaves a stream that leads to an entity not registered. -/
theorem RoutesRegistered.perform (h : engine.RoutesRegistered) (operation : Operation) :
    (engine.perform operation).RoutesRegistered := by
  cases operation with
  | wire id kind => exact h.wire id kind
  | wireConfigured => exact h.wire_configured
  | start => exact h.wire_configured
  | handleEvent event =>
      cases event with
      | sample stream payload =>
          exact h.of_prefix (Advances.handle_sample engine stream payload).registry.ids
            (handle_sample_keeps stream payload).2.2
      | discovery population => exact h.discover population
  | planFetches => exact h
  | handleFetched request result =>
      refine h.of_prefix (Advances.handle_fetched engine request result).registry.ids ?_
      rw [Engine.perform, handleFetched]
      split <;> rfl

/-- Whatever is done with a session, streams lead to registered entities only. -/
theorem routes_registered (settings : Settings) (operations : List Operation) :
    (reached settings operations).RoutesRegistered := by
  induction operations using List.reverseRecOn with
  | nil =>
      intro stream id hroute
      cases hroute
  | append_singleton operations operation ih =>
      rw [reached_concat]
      exact ih.perform operation

/-! ## One message -/

/-- The samples of a stream that leads to a record are stored in it. -/
theorem get?_handle_sample_of_route {record : EntityRecord} (payload : Members Json)
    (hroute : engine.subscriptions.route? stream = some id)
    (hrecord : engine.registry.get? id = some record) :
    (engine.handleSample stream payload).registry.get? id =
      some (record.ingest engine.settings.ranges payload record.metrics) := by
  rw [handleSample, Subscriptions.deliver, hroute]
  simp only [Option.bind_eq_bind, Option.bind_some, hrecord]
  show (engine.registry.modify id _).get? id = _
  rw [Registry.get?_modify, hrecord, if_pos rfl, Option.map_some]
  exact fun record => (EntityRecord.SameEntity.ingest record record.metrics).id

/-- At every moment of every session, a message on a stream that leads to an entity is stored in the
record of the entity. Each series of the record gets the value that the message has for its metric,
if that is usable, as often as the metric is listed, if it is the first one for the metric, and
nothing if it is not. So a series whose metric is listed once gets exactly one value if there is a
usable one, and nothing otherwise. -/
theorem stored_at_each_place (operations : List Operation) (payload : Members Json)
    (hroute : (reached settings operations).subscriptions.route? stream = some id) :
    ∃ record after, (reached settings operations).registry.get? id = some record ∧
      ((reached settings operations).handleEvent (.sample stream payload)).registry.get? id =
        some after ∧
      record.metrics = settings.layout.metricsFor record.kind.family ∧
      after.metrics = record.metrics ∧
      ∀ (place : Nat) (metric : Metric) (series : Series),
        record.series[place]? = some (metric, series) →
        after.series[place]? = some (metric, series.extend
          (repeated (timesMeant record.metrics record.metrics place metric)
            (settings.ranges.payloadSample? payload metric))) ∧
        (record.metrics.count metric = 1 → after.series[place]? =
          some (metric, series.extend (settings.ranges.payloadSample? payload metric).toList)) := by
  have hregistered := routes_registered settings operations stream id hroute
  obtain ⟨record, hrecord⟩ : ∃ record,
      (reached settings operations).registry.get? id = some record := by
    rwa [← Registry.contains_iff_mem_ids, Registry.contains_eq_is_some,
      Option.isSome_iff_exists] at hregistered
  have hstored := get?_handle_sample_of_route payload hroute hrecord
  rw [settings_reached] at hstored
  refine ⟨record, _, hrecord, hstored, metrics_of_reached (Registry.mem_of_get? hrecord), ?_, ?_⟩
  · exact (EntityRecord.SameEntity.ingest record record.metrics).metrics
  · intro place metric series hplace
    have hlisted : record.metrics[place]? = some metric := by
      rw [EntityRecord.metrics, List.getElem?_map, hplace, Option.map_some]
    have hseries := EntityRecord.getElem?_ingest settings.ranges payload record record.metrics place
    rw [hplace, Option.map_some] at hseries
    refine ⟨hseries, fun hcount => ?_⟩
    rw [hseries, times_meant_of_count hlisted hcount, repeated_one]

/-- The load of `web` is listed twice, its memory once. -/
def loadListedTwice : Settings where
  watchers := ["web"]
  layout := { capacity := 2, prefill := true, watcherMetrics := [.cpu, .mem, .cpu] }

/-- A message with both values: the memory is stored once, the load twice and then never. -/
theorem stored_at_each_place_listed_twice :
    (reached loadListedTwice [.start]).subscriptions.route? "stats-web" = some "web" ∧
    ∃ record after, (reached loadListedTwice [.start]).registry.get? "web" = some record ∧
      ((reached loadListedTwice [.start]).handleEvent (.sample "stats-web"
        [("cpu", .number (.integer 5)), ("mem", .string "7")])).registry.get? "web" = some after ∧
      after.series[0]? = some (.cpu, ⟨2, [.ofInt 5, .ofInt 5]⟩) ∧
      after.series[1]? = some (.mem, ⟨2, [.zero, .ofInt 7]⟩) ∧
      after.series[2]? = some (.cpu, ⟨2, [.zero, .zero]⟩) := by
  have hroute : (reached loadListedTwice [.start]).subscriptions.route? "stats-web" =
      some "web" := by decide +kernel
  obtain ⟨record, after, hrecord, hafter, -, -, hplaces⟩ := stored_at_each_place [.start]
    [("cpu", .number (.integer 5)), ("mem", .string "7")] hroute
  obtain rfl : _ = record := Option.some.inj (Eq.trans rfl hrecord)
  refine ⟨hroute, _, _, hrecord, hafter, ?_, ?_, ?_⟩
  · exact (hplaces 0 .cpu ⟨2, [.zero, .zero]⟩ rfl).1.trans (by decide +kernel)
  · exact ((hplaces 1 .mem ⟨2, [.zero, .zero]⟩ rfl).2 rfl).trans (by decide +kernel)
  · exact (hplaces 2 .cpu ⟨2, [.zero, .zero]⟩ rfl).1.trans (by decide +kernel)

/-- A configuration that lists the load twice. -/
def twiceTheLoad : Config where
  watchers := ["a"]
  watcherMetrics := [.cpu, .cpu]
  capacity := 2

/-- That configuration can be used, but one message with one value for the load is two data points
of the first series and none of the second. -/
theorem listed_twice_stored_twice :
    twiceTheLoad.validate = .ok () ∧ twiceTheLoad.settings.mode = .push ∧
    StreamEvent.decode "\x7b\"name\":\"stats-a\",\"args\":\x7b\"cpu\":5\x7d\x7d" =
      .ok (some (.sample "stats-a" [("cpu", .number (.integer 5))])) ∧
    ∃ engine record after, engine = (Engine.new twiceTheLoad.settings).start ∧
      engine.subscriptions.route? "stats-a" = some "a" ∧
      engine.registry.get? "a" = some record ∧
      (engine.handleEvent (.sample "stats-a" [("cpu", .number (.integer 5))])).registry.get? "a" =
        some after ∧
      twiceTheLoad.settings.ranges.payloadSample? [("cpu", .number (.integer 5))] .cpu =
        some (.ofInt 5) ∧
      record.series = [(.cpu, ⟨2, [.zero, .zero]⟩), (.cpu, ⟨2, [.zero, .zero]⟩)] ∧
      after.series = [(.cpu, ⟨2, [.ofInt 5, .ofInt 5]⟩), (.cpu, ⟨2, [.zero, .zero]⟩)] ∧
      after.series ≠ record.series.map fun (metric, series) =>
        (metric, series.append (.ofInt 5)) := by
  refine ⟨by decide +kernel, rfl, by decide +kernel, _, _, _, rfl, by decide +kernel, rfl, rfl,
    by decide +kernel, by decide +kernel, by decide +kernel, by decide +kernel⟩

end Engine

end StatsBoard
