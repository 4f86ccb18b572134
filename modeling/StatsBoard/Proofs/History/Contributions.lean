import StatsBoard.Proofs.History.Polling
import StatsBoard.Proofs.Series

/-!
# What answers leave in the registry

Each answer contributes lists of values to entities. `holds_what_was_answered` says that in a
session that polls a series holds the last of the samples that were contributed to it, whatever the
shapes of the answers and the order in which requests ended, and that the entities are listed in
the order of their first contribution, after those that are configured.
-/

namespace StatsBoard

/-! ## Contributions -/

/-- A list of values that arrived for a metric of an entity. -/
structure Contribution where
  id : String
  metric : Metric
  values : List Json

/-- The lists of values in an answer to a request for an aggregate, with the entities that they
are for. A list that stands alone is for the aggregate. One under a key is for the aggregate if the
key is its name, and for a child of it otherwise. -/
def StatsResponse.lists (entity : String) : StatsResponse → List (String × List Json)
  | samples values | info values => [(entity, values)]
  | keyed members => members.filterMap fun
    | (key, .array values) => some (if key = entity then entity else childId entity key, values)
    | _ => none

/-- What something that happens in a session contributes. -/
def PollCall.contributions : PollCall → List Contribution
  | complete request (.ok response) =>
    (response.lists request.entity).map fun (id, values) => ⟨id, request.metric, values⟩
  | complete _ (.error _) | plan => []

/-- What is contributed in a session, in order. -/
def contributionsOf (calls : List PollCall) : List Contribution :=
  calls.flatMap PollCall.contributions

/-- The usable samples, clamped, that contributions bring for a metric of an entity, in order. -/
def contributedSamples (ranges : Ranges) (id : String) (metric : Metric)
    (contributions : List Contribution) : List Binary64 :=
  (contributions.filter fun given => given.id == id && given.metric == metric).flatMap
    fun given => ranges.samples metric given.values

theorem contributions_of_concat (calls : List PollCall) (call : PollCall) :
    contributionsOf (calls ++ [call]) = contributionsOf calls ++ call.contributions := by
  rw [contributionsOf, List.flatMap_append, List.flatMap_singleton, ← contributionsOf]

variable {ranges : Ranges} {id : String} {metric : Metric} {contributions : List Contribution}

/-- Contributions bring their samples one after the other. -/
theorem contributed_samples_append (first second : List Contribution) :
    contributedSamples ranges id metric (first ++ second) =
      contributedSamples ranges id metric first ++ contributedSamples ranges id metric second := by
  rw [contributedSamples, List.filter_append, List.flatMap_append]
  rfl

/-- One more contribution adds its samples if it is for the entity and the metric. -/
theorem contributed_samples_concat (given : Contribution) :
    contributedSamples ranges id metric (contributions ++ [given]) =
      contributedSamples ranges id metric contributions ++
        if given.id = id ∧ given.metric = metric then ranges.samples metric given.values
        else [] := by
  rw [contributed_samples_append]
  by_cases h : given.id = id ∧ given.metric = metric <;> simp [contributedSamples, h]

/-- There are no samples for an entity to which nothing was contributed. -/
theorem contributed_samples_eq_nil (h : ∀ given ∈ contributions, given.id ≠ id) :
    contributedSamples ranges id metric contributions = [] := by
  have hnone : contributions.filter (fun given => given.id == id && given.metric == metric) = [] :=
    List.filter_eq_nil_iff.mpr fun given hgiven => by simp [h given hgiven]
  rw [contributedSamples, hnone, List.flatMap_nil]

/-! ## Contributions are what is stored -/

/-- What a part of an answer contributes. -/
def Share.contribution? (metric : Metric) : Share → Option Contribution
  | samples id _ values => some ⟨id, metric, values⟩
  | skipped _ => none

/-- The end of a request contributes what its parts do. -/
theorem PollCall.contributions_complete (request : FetchRequest) (result : FetchResult) :
    (complete request result).contributions =
      (result.shares request.entity).filterMap (Share.contribution? request.metric) := by
  cases result with
  | error => rfl
  | ok response =>
      rw [contributions, FetchResult.shares]
      cases response with
      | samples | info => rfl
      | keyed members =>
          rw [StatsResponse.lists, StatsResponse.shares, List.map_filterMap, List.filterMap_map]
          refine List.filterMap_congr fun member _ => ?_
          obtain ⟨key, value⟩ := member
          rw [Function.comp_apply]
          cases value with
          | array values =>
              by_cases hkey : key = request.entity <;>
                simp [Share.ofMember, Share.contribution?, hkey]
          | _ => rfl

/-- A series goes on as a window when samples are added. -/
theorem Series.extend_window (capacity : Nat) (items samples : List Binary64) :
    Series.extend ⟨capacity, lastItems capacity items⟩ samples =
      ⟨capacity, lastItems capacity (items ++ samples)⟩ := by
  have hfits : Series.Fits ⟨capacity, lastItems capacity items⟩ := by
    show (items.drop (items.length - capacity)).length ≤ capacity
    rw [List.length_drop]
    omega
  rw [Series.extend_eq hfits, last_items_append]

/-- A new series is a window without samples. -/
theorem SeriesLayout.fresh_series_window (layout : SeriesLayout) :
    layout.freshSeries = ⟨layout.capacity, lastItems layout.capacity (layout.initial ++ [])⟩ := by
  have hfits := layout.fits_fresh_series
  rw [fresh_series_eq] at hfits
  rw [List.append_nil, last_items_of_le hfits, fresh_series_eq]

namespace Registry

/-- The registry lists given entities and then those of contributions, in the order in which they
first occur, and each series is the window onto its samples. -/
structure Holds (ranges : Ranges) (names : List String) (contributions : List Contribution)
    (registry : Registry) : Prop where
  ids : registry.ids = (names ++ contributions.map (·.id)).eraseDups
  series : ∀ id record, registry.get? id = some record → ∀ metric ∈ record.metrics,
    record.series? metric = some ⟨registry.layout.capacity, lastItems registry.layout.capacity
      (registry.layout.initial ++ contributedSamples ranges id metric contributions)⟩

variable {names : List String} {registry : Registry}

/-- Nothing was contributed to an entity that is not registered. -/
theorem Holds.ne_of_get?_eq_none (h : registry.Holds ranges names contributions)
    (hnone : registry.get? id = none) : ∀ given ∈ contributions, given.id ≠ id := by
  rintro given hgiven rfl
  have hlisted : registry.contains given.id := by
    rw [contains_iff_mem_ids, h.ids, List.mem_eraseDups]
    exact List.mem_append_right _ (List.mem_map_of_mem hgiven)
  rw [contains_eq_is_some, hnone] at hlisted
  cases hlisted

/-- The record to which a contribution goes holds the samples that arrived before. -/
theorem Holds.series_getD (h : registry.Holds ranges names contributions) (kind : EntityKind)
    (hmetric : metric ∈
      ((registry.get? id).getD (.fresh registry.layout id kind)).metrics) :
    ((registry.get? id).getD (.fresh registry.layout id kind)).series? metric =
      some ⟨registry.layout.capacity, lastItems registry.layout.capacity
        (registry.layout.initial ++ contributedSamples ranges id metric contributions)⟩ := by
  cases hrecord : registry.get? id with
  | some record =>
      rw [hrecord] at hmetric
      exact h.series id record hrecord metric hmetric
  | none =>
      rw [hrecord, Option.getD_none, EntityRecord.metrics_fresh] at hmetric
      rw [Option.getD_none, EntityRecord.series?_fresh hmetric, SeriesLayout.fresh_series_window,
        contributed_samples_eq_nil (h.ne_of_get?_eq_none hrecord)]

/-- A part of an answer leaves its contribution in the registry. -/
theorem Holds.receive (h : registry.Holds ranges names contributions) (share : Share) :
    (registry.receive ranges metric share).Holds ranges names
      (contributions ++ (share.contribution? metric).toList) := by
  cases share with
  | skipped key => simpa [Registry.receive, Share.contribution?] using h
  | samples target kind values =>
      refine ⟨?ids, ?series⟩
      case ids =>
        rw [Registry.receive, ids_modify fun _ => EntityRecord.id_modify_series, ids_enlist]
        simp only [Share.contribution?, Option.toList_some, List.map_append, List.map_singleton]
        rw [← List.append_assoc, erase_dups_concat, ← h.ids]
        have hlisted : (names ++ contributions.map (·.id)).contains target =
            registry.contains target := by
          rw [Bool.eq_iff_iff, List.contains_iff_mem, contains_iff_mem_ids, h.ids,
            List.mem_eraseDups]
        rw [hlisted]
      case series =>
        intro id record hrecord other hother
        rw [layout_receive, Share.contribution?, Option.toList_some, contributed_samples_concat]
        rw [get?_receive, Share.reach] at hrecord
        split at hrecord
        next hid =>
          subst hid
          obtain rfl := Option.some.inj hrecord
          rw [EntityRecord.metrics_receive] at hother
          have hseries := h.series_getD kind hother
          rw [EntityRecord.receive, EntityRecord.series?_modify_series,
            EntityRecord.series?_mark_subscribed, hseries]
          -- The samples go into the series of their metric, and the others stay.
          by_cases hmetric : other = metric
          · subst hmetric
            rw [if_pos rfl, if_pos ⟨rfl, rfl⟩, Option.map_some, Series.extend_window,
              List.append_assoc]
          · rw [if_neg hmetric, if_neg fun hsame => hmetric hsame.2.symm, List.append_nil]
        next hid =>
          rw [if_neg fun hsame => hid hsame.1.symm, List.append_nil]
          exact h.series id record hrecord other hother

/-- An answer leaves the contributions of its parts in the registry. -/
theorem Holds.foldl_receive (h : registry.Holds ranges names contributions)
    (shares : List Share) :
    (shares.foldl (Registry.receive ranges metric) registry).Holds ranges names
      (contributions ++ shares.filterMap (Share.contribution? metric)) := by
  induction shares generalizing registry contributions with
  | nil => simpa using h
  | cons share shares ih =>
      have hfirst : (registry.receive ranges metric share).Holds ranges names _ := h.receive share
      have hrest := ih hfirst
      rw [List.append_assoc] at hrest
      rw [List.foldl_cons]
      cases hshare : share.contribution? metric with
      | none =>
          rw [List.filterMap_cons_none hshare]
          simpa [hshare] using hrest
      | some given =>
          rw [List.filterMap_cons_some hshare]
          simpa [hshare] using hrest

/-- Once the configured aggregates are wired, the registry holds them and no samples. -/
theorem Holds.wire_configured (settings : Settings) (ranges : Ranges) :
    (Engine.new settings).wireConfigured.registry.Holds ranges (Engine.configured settings) [] := by
  refine ⟨?_, ?_⟩
  · rw [List.map_nil, List.append_nil]
    exact Engine.ids_wire_configured settings
  · intro id record hrecord metric hmetric
    rw [Engine.get?_wire_configured] at hrecord
    rw [Engine.layout_wire_configured]
    split at hrecord
    next =>
      obtain rfl := Option.some.inj hrecord
      rw [EntityRecord.metrics_mark_subscribed, EntityRecord.metrics_fresh] at hmetric
      rw [EntityRecord.series?_mark_subscribed, EntityRecord.series?_fresh hmetric,
        SeriesLayout.fresh_series_window]
      rfl
    next => cases hrecord

end Registry

/-! ## Runs -/

namespace PollState

variable {settings : Settings} {calls : List PollCall} {state : PollState}

/-- Every run leaves its contributions in the registry. -/
theorem holds_of_run (hmode : settings.mode = .pull)
    (h : (start settings).run? calls = some state) :
    state.engine.registry.Holds settings.ranges (Engine.configured settings)
      (contributionsOf calls) := by
  induction h using run_induction with
  | start => exact .wire_configured settings settings.ranges
  | plan calls before hrun ih =>
      rw [contributions_of_concat, PollCall.contributions, List.append_nil]
      exact ih
  | complete calls before request result hrun hrequest ih =>
      rw [contributions_of_concat, PollCall.contributions_complete, Engine.registry_handle_fetched,
        (sound_of_run hmode hrun).settings_eq]
      exact ih.foldl_receive _

/-- At every moment of a session that polls, a series holds the last of the usable samples, clamped,
that answers to requests for its metric contributed to its entity, after what the series held at
first; and the registry lists the configured aggregates and then the other entities, in the order
of their first contribution. -/
theorem holds_what_was_answered (hmode : settings.mode = .pull)
    (h : (start settings).run? calls = some state) :
    (∀ id record metric, state.engine.registry.get? id = some record → record.tracks metric →
      record.series? metric = some ⟨settings.layout.capacity,
        lastItems settings.layout.capacity (settings.layout.initial ++
          contributedSamples settings.ranges id metric (contributionsOf calls))⟩) ∧
    state.engine.registry.ids = (Engine.configured settings).eraseDups ++
      (((contributionsOf calls).map (·.id)).filter (· ∉ Engine.configured settings)).eraseDups := by
  have hholds := holds_of_run hmode h
  refine ⟨?_, ?_⟩
  · intro id record metric hrecord htracks
    rw [← (sound_of_run hmode h).layout_eq]
    exact hholds.series id record hrecord metric (EntityRecord.tracks_iff.mp htracks)
  · rw [hholds.ids, List.eraseDups_append]
    simp [List.removeAll]

/-- `web` and the processes of `db` are polled, with two samples for each metric. -/
def webAndProcesses : Settings where
  mode := .pull
  watchers := ["web"]
  watchersWithPids := ["db", "web"]
  layout := { capacity := 2, prefill := true }

/-- Two answers about the processes of `db`, one about `web`, and a failure. -/
def answersOfProcesses : List PollCall :=
  [.plan,
    .complete ⟨"db", .cpu, none⟩ (.ok (.keyed [("7", .array [.number (.integer 150)]),
      ("db", .array [.number (.integer 5)]), ("9", .null)])),
    .complete ⟨"db", .mem, none⟩ (.error .timeout),
    .complete ⟨"web", .cpu, none⟩ (.ok (.info [.number (.integer 3)])),
    .plan,
    .complete ⟨"db", .cpu, some { }⟩ (.ok (.keyed [("8", .array []),
      ("7", .array [.string "n/a", .string "-3"])]))]

/-- A process holds what both answers contributed to it, and a process without samples is listed. -/
theorem holds_what_was_answered_processes :
    ∃ state record, (start webAndProcesses).run? answersOfProcesses = some state ∧
      state.engine.registry.ids = ["web", "db", "db-7", "db-8"] ∧
      state.engine.registry.get? "db-7" = some record ∧
      record.series? .cpu = some ⟨2, [.ofInt 100, .ofInt 0]⟩ ∧
      record.series? .mem = some ⟨2, [.zero, .zero]⟩ := by
  have hrun : (start webAndProcesses).run? answersOfProcesses = some _ := rfl
  obtain ⟨hseries, hids⟩ := holds_what_was_answered rfl hrun
  refine ⟨_, _, hrun, hids.trans (by decide), rfl, ?_, ?_⟩
  · exact (hseries "db-7" _ .cpu rfl (by decide)).trans (by decide +kernel)
  · exact (hseries "db-7" _ .mem rfl (by decide)).trans (by decide +kernel)

end PollState

end StatsBoard
