import StatsBoard.Proofs.History.Ownership
import StatsBoard.Proofs.Json.Reading
import StatsBoard.Proofs.Operations
import StatsBoard.Proofs.Success

/-!
# What the end of a request changes

The end of a request reports the entities whose series it reached. It changes the series of its
metric in their records and nothing else in the records that were there; entities that were not
registered are added in the order of the answer (`changes_what_it_reports`). This holds of any
registry in which identifiers are unique and series fit, as all those are that a session can have
(`Engine.well_formed_reached`), and of any answer without repeated keys, as all those are that are
read (`StatsResponse.distinct_keys_of_decode`).
-/

namespace StatsBoard

/-! ## Registries that sessions can have -/

/-- No two records have the same identifier, and no series is longer than its capacity. -/
structure Registry.WellFormed (registry : Registry) : Prop where
  nodup : registry.ids.Nodup
  fits : ∀ record ∈ registry.records, ∀ entry ∈ record.series, entry.2.Fits

variable {ranges : Ranges} {metric : Metric} {registry : Registry} {id : String}

/-- Series that are given samples go on fitting. -/
theorem EntityRecord.Grows.fits {before after : EntityRecord} (h : before.Grows ranges after)
    (hfits : ∀ entry ∈ before.series, entry.2.Fits) : ∀ entry ∈ after.series, entry.2.Fits := by
  intro entry hentry
  obtain ⟨place, hplace, rfl⟩ := List.getElem_of_mem hentry
  obtain ⟨hlength, hfed⟩ := List.forall₂_iff_get.mp h.series
  obtain ⟨samples, -, hgrown⟩ := hfed place (hlength ▸ hplace) hplace
  rw [List.get_eq_getElem, List.get_eq_getElem] at hgrown
  rw [hgrown]
  exact (hfits _ (List.getElem_mem _)).extend samples

namespace Registry

/-- A registry without records is well-formed. -/
theorem well_formed_empty (layout : SeriesLayout) : (empty layout).WellFormed :=
  ⟨List.nodup_nil, List.forall_mem_nil _⟩

/-- A registry that grows stays well-formed. -/
theorem WellFormed.of_grows {after : Registry} (h : registry.WellFormed)
    (hgrows : registry.Grows ranges after) : after.WellFormed where
  nodup := hgrows.nodup h.nodup
  fits record hrecord := by
    have hfound := get?_of_mem (hgrows.nodup h.nodup) hrecord
    cases hbefore : registry.get? record.id with
    | some before =>
        obtain ⟨grown, hgrown, hsame⟩ := hgrows.kept _ before hbefore
        obtain rfl := Option.some.inj (hfound.symm.trans hgrown)
        exact hsame.fits (h.fits before (mem_of_get? hbefore))
    | none =>
        obtain ⟨kind, hfresh⟩ := hgrows.added _ record hbefore hfound
        refine hfresh.fits fun entry hentry => ?_
        obtain ⟨_, -, rfl⟩ := List.mem_map.mp hentry
        exact registry.layout.fits_fresh_series

end Registry

/-- Whatever is done with a session, its registry is well-formed. -/
theorem Engine.well_formed_reached (settings : Settings) (operations : List Operation) :
    (reached settings operations).registry.WellFormed :=
  (Registry.well_formed_empty settings.layout).of_grows (grows_reached settings [] operations)

/-! ## Answers that can be read -/

/-- No key of an answer with samples per key is repeated. -/
def FetchResult.HasDistinctKeys : FetchResult → Prop
  | .ok (.keyed members) => (members.map (·.1)).Nodup
  | _ => True

/-- Putting a member keeps keys distinct. -/
theorem Members.nodup_put {α : Type} {members : Members α} (h : (members.map (·.1)).Nodup)
    (key : String) (value : α) : ((members.put key value).map (·.1)).Nodup := by
  rw [put]
  split
  next =>
    have hkeys : (members.map fun member => if member.1 == key then (key, value) else member).map
        (·.1) = members.map (·.1) := by
      rw [List.map_map]
      refine List.map_congr_left fun member _ => ?_
      rw [Function.comp_apply]
      split
      next hkey => exact (eq_of_beq hkey).symm
      next => rfl
    rwa [hkeys]
  next hnew =>
    rw [List.map_append, List.map_singleton]
    refine List.nodup_append.mpr ⟨h, List.nodup_singleton key, ?_⟩
    rintro other hother _ hlast rfl
    obtain ⟨member, hmember, hkey⟩ := List.mem_map.mp hother
    rw [List.mem_singleton.mp hlast] at hkey
    exact hnew (List.any_eq_true.mpr ⟨member, hmember, beq_iff_eq.mpr hkey⟩)

/-- An answer of whatever shape has distinct keys. -/
theorem StatsResponse.yields_distinct_keys :
    decoder.Yields fun response => FetchResult.HasDistinctKeys (.ok response) := by
  have hkeyed : (Decoder.map some Json.decoder [] Members.put).Yields
      fun members => (members.map (·.1)).Nodup :=
    Decoder.yields_map (Decoder.yields_true _) List.nodup_nil fun _ key value hmembers _ =>
      Members.nodup_put hmembers key value
  refine Decoder.yields_untagged ?_
  intro shape hshape room draft response hdraft hresponse
  simp only [shapes, List.mem_cons, List.not_mem_nil, or_false] at hshape
  obtain rfl | rfl | rfl := hshape
  case inl =>
    obtain ⟨_, -, rfl⟩ := map_eq_ok_iff.mp hresponse
    trivial
  case inr.inl =>
    obtain ⟨_, -, rfl⟩ := map_eq_ok_iff.mp hresponse
    trivial
  case inr.inr =>
    obtain ⟨members, hmembers, rfl⟩ := map_eq_ok_iff.mp hresponse
    exact hkeyed room draft members hdraft hmembers

/-- An answer that is read has distinct keys. -/
theorem StatsResponse.distinct_keys_of_decode {text : String} {response : StatsResponse}
    (h : decode text = .ok response) : FetchResult.HasDistinctKeys (.ok response) :=
  yields_distinct_keys.read h

/-! ## One record -/

namespace EntityRecord

variable {before after record : EntityRecord} {samples : List Binary64}

/-- A record is the same record, except that its series of a metric holds further samples and has
dropped the oldest ones for them. A metric that is listed several times has its first series. -/
structure ExtendedBy (metric : Metric) (samples : List Binary64) (before after : EntityRecord) :
    Prop where
  id : after.id = before.id
  kind : after.kind = before.kind
  metrics : after.metrics = before.metrics
  others : ∀ place, place ≠ before.metrics.idxOf metric →
    after.series[place]? = before.series[place]?
  extended : after.series? metric = (before.series? metric).map fun series =>
    ⟨series.capacity, lastItems series.capacity (series.samples ++ samples)⟩

/-- A change reaches the first place of its metric only. -/
theorem getElem?_modify_first_of_ne {change : Series → Series} {series : List (Metric × Series)}
    {place : Nat} (h : place ≠ (series.map (·.1)).idxOf metric) :
    (modifyFirst metric change series)[place]? = series[place]? := by
  induction series generalizing place with
  | nil => rfl
  | cons entry rest ih =>
      obtain ⟨m, series⟩ := entry
      rw [modifyFirst]
      rw [List.map_cons] at h
      by_cases hm : m = metric
      · rw [if_pos hm]
        cases place with
        | zero => exact absurd (by rw [hm, List.idxOf_cons_self]) h
        | succ place => rfl
      · rw [if_neg hm]
        cases place with
        | zero => rfl
        | succ place =>
            rw [List.idxOf_cons_ne _ hm] at h
            exact ih fun hplace => h (congrArg Nat.succ hplace)

/-- Storing samples extends the series of their metric. -/
theorem extended_by_receive (hfits : ∀ entry ∈ record.series, entry.2.Fits) (values : List Json) :
    record.ExtendedBy metric (ranges.samples metric values)
      (record.receive ranges metric values) where
  id := rfl
  kind := rfl
  metrics := metrics_receive
  others place hplace := getElem?_modify_first_of_ne hplace
  extended := by
    rw [receive, series?_modify_series, if_pos rfl, series?_mark_subscribed]
    cases hseries : record.series? metric with
    | none => rfl
    | some series =>
        obtain ⟨entry, hentry, rfl⟩ := Option.map_eq_some_iff.mp hseries
        exact congrArg some (Series.extend_eq (hfits entry (List.mem_of_find?_eq_some hentry)) _)

/-- A record without a series for the metric keeps all its series. -/
theorem ExtendedBy.series_eq (h : before.ExtendedBy metric samples after)
    (htracks : before.tracks metric = false) : after.series = before.series := by
  have hmetric : metric ∉ before.metrics := by
    rwa [← tracks_iff, Bool.not_eq_true]
  have hlength : after.series.length = before.series.length := by
    have hmetrics := congrArg List.length h.metrics
    rwa [EntityRecord.metrics, EntityRecord.metrics, List.length_map, List.length_map] at hmetrics
  refine List.ext_getElem? fun place => ?_
  by_cases hplace : place < before.series.length
  · refine h.others place (Nat.ne_of_lt ?_)
    rwa [List.idxOf_eq_length hmetric, EntityRecord.metrics, List.length_map]
  · rw [List.getElem?_eq_none (Nat.le_of_not_lt hplace),
      List.getElem?_eq_none (hlength ▸ Nat.le_of_not_lt hplace)]

end EntityRecord

/-! ## The registry -/

/-- Members under different keys are for different entities. -/
theorem Share.inj_of_target? {entity id : String} {first second : String × Json}
    (hfirst : (ofMember entity first).target? = some id)
    (hsecond : (ofMember entity second).target? = some id) : first.1 = second.1 := by
  -- What a key is for tells the key: a child has a longer identifier than its aggregate.
  have hkey : ∀ member : String × Json, (ofMember entity member).target? = some id →
      (id = entity ∧ member.1 = entity) ∨ id = childId entity member.1 := by
    rintro ⟨key, value⟩ h
    cases value with
    | array values =>
        rw [ofMember] at h
        split at h
        next hentity => exact .inl ⟨(Option.some.inj h).symm, hentity⟩
        next => exact .inr (Option.some.inj h).symm
    | _ => cases h
  have hchild : ∀ key, childId entity key ≠ entity := by
    intro key hid
    have hlength := congrArg (List.length ∘ String.toList) hid
    simp [to_list_child_id] at hlength
  rcases hkey first hfirst with ⟨hid, hname⟩ | hid
  · rcases hkey second hsecond with ⟨_, hother⟩ | hother
    · exact hname.trans hother.symm
    · exact absurd (hother.symm.trans hid) (hchild _)
  · rcases hkey second hsecond with ⟨hother, _⟩ | hother
    · exact absurd (hid.symm.trans hother) (hchild _)
    · have hchars := congrArg String.toList (hid.symm.trans hother)
      rw [to_list_child_id, to_list_child_id, List.append_cancel_left_eq] at hchars
      exact String.toList_inj.mp (List.cons.inj hchars).2

/-- No two parts of an answer with distinct keys are for the same entity. -/
theorem FetchResult.HasDistinctKeys.nodup_targets {result : FetchResult}
    (h : result.HasDistinctKeys) (entity : String) :
    ((result.shares entity).filterMap Share.target?).Nodup := by
  cases result with
  | error => exact List.nodup_nil
  | ok response =>
      cases response with
      | samples values | info values => exact List.nodup_singleton entity
      | keyed members =>
          rw [shares, StatsResponse.shares, List.filterMap_map, List.Nodup,
            List.pairwise_filterMap]
          refine (List.pairwise_map.mp h).imp fun {first second} hkeys => ?_
          rintro id hfirst _ hsecond rfl
          exact hkeys (Share.inj_of_target? hfirst hsecond)

namespace Registry

variable {share : Share} {shares : List Share} {kind : EntityKind} {values : List Json}

/-- A part of an answer that is the only one for its entity leaves its samples in the record of the
entity, which is new if there was none. -/
theorem get?_of_mem_shares (hnodup : (shares.filterMap Share.target?).Nodup)
    (hshare : .samples id kind values ∈ shares) :
    (shares.foldl (receive ranges metric) registry).get? id =
      some (((registry.get? id).getD (.fresh registry.layout id kind)).receive ranges metric
        values) := by
  obtain ⟨before, after, rfl⟩ := List.append_of_mem hshare
  have htarget : Share.target? (.samples id kind values) = some id := rfl
  rw [List.filterMap_append, List.filterMap_cons_some htarget, List.nodup_append,
    List.nodup_cons] at hnodup
  obtain ⟨-, ⟨hafter, -⟩, hbefore⟩ := hnodup
  have hbefore : id ∉ before.filterMap Share.target? :=
    fun hmem => hbefore id hmem id List.mem_cons_self rfl
  rw [get?_foldl_receive, List.foldl_append, List.foldl_cons,
    Share.foldl_reach_of_not_mem hbefore, Share.reach, if_pos rfl,
    Share.foldl_reach_of_not_mem hafter]

/-- A part of an answer lists its entity at the end, unless it is listed. -/
theorem ids_receive : (registry.receive ranges metric share).ids =
    registry.ids ++ share.target?.toList.filter (!registry.contains ·) := by
  cases share with
  | skipped key => exact (List.append_nil _).symm
  | samples id kind values =>
      rw [receive, ids_modify fun _ => EntityRecord.id_modify_series, ids_enlist]
      cases hknown : registry.contains id <;> simp [Share.target?, hknown]

/-- Entities that are not registered are listed in the order of the answer. -/
theorem ids_foldl_receive (hnodup : (shares.filterMap Share.target?).Nodup) :
    (shares.foldl (receive ranges metric) registry).ids =
      registry.ids ++ (shares.filterMap Share.target?).filter (!registry.contains ·) := by
  induction shares using List.reverseRecOn with
  | nil => exact (List.append_nil _).symm
  | append_singleton shares share ih =>
      rw [filter_map_target?_concat] at hnodup ⊢
      obtain ⟨hshares, -, hlast⟩ := List.nodup_append.mp hnodup
      -- The entity of the last part has not been listed by an earlier one.
      have hunlisted : ∀ id ∈ share.target?.toList,
          (shares.foldl (receive ranges metric) registry).contains id = registry.contains id := by
        intro id hid
        have hnew : id ∉ shares.filterMap Share.target? := fun hmem => hlast id hmem id hid rfl
        rw [Bool.eq_iff_iff, contains_foldl_receive, or_iff_left hnew]
      rw [List.foldl_concat, ids_receive, ih hshares, List.filter_append, List.append_assoc]
      refine congrArg _ (congrArg _ (List.filter_congr fun id hid => ?_))
      rw [hunlisted id hid]

variable {request : FetchRequest} {result : FetchResult}

/-- The end of a request touches the entities to which it contributes and that have a series for the
metric. -/
theorem touched_eq_contributions (registry : Registry) (ranges : Ranges) (request : FetchRequest)
    (result : FetchResult) :
    (registry.complete ranges request result).touched =
      ((PollCall.complete request result).contributions.map (·.id)).filter
        ((registry.complete ranges request result).registry.tracks · request.metric) := by
  rw [PollCall.map_id_contributions]
  exact touched_complete request result

/-- The end of a request lists the entities to which it contributes at the end, in the order of the
answer, if they are not registered. -/
theorem ids_complete (ranges : Ranges) (hkeys : result.HasDistinctKeys) :
    (registry.complete ranges request result).registry.ids = registry.ids ++
      ((PollCall.complete request result).contributions.map (·.id)).filter
        (!registry.contains ·) := by
  rw [registry_complete, PollCall.map_id_contributions]
  exact ids_foldl_receive (hkeys.nodup_targets request.entity)

/-- The end of a request leaves the records of entities alone to which it contributes nothing. -/
theorem get?_complete_of_not_mem (ranges : Ranges)
    (h : id ∉ (PollCall.complete request result).contributions.map (·.id)) :
    (registry.complete ranges request result).registry.get? id = registry.get? id := by
  rw [PollCall.map_id_contributions] at h
  rw [registry_complete, get?_foldl_receive]
  exact Share.foldl_reach_of_not_mem h

/-- What is contributed to an entity extends the series of the metric in its record, which is new if
there was none. -/
theorem WellFormed.extended_by_complete (h : registry.WellFormed) (ranges : Ranges)
    (hkeys : result.HasDistinctKeys) {given : Contribution}
    (hgiven : given ∈ (PollCall.complete request result).contributions) :
    ∃ kind after, OwnedBy request.entity given.id kind ∧
      (registry.complete ranges request result).registry.get? given.id = some after ∧
      ((registry.get? given.id).getD (.fresh registry.layout given.id kind)).ExtendedBy
        request.metric (ranges.samples request.metric given.values) after := by
  rw [PollCall.contributions_complete] at hgiven
  obtain ⟨share, hshare, hcontribution⟩ := List.mem_filterMap.mp hgiven
  cases share with
  | skipped key => cases hcontribution
  | samples id kind values =>
      cases hcontribution
      have howned : OwnedBy request.entity id kind :=
        FetchResult.is_under_of_mem_shares hshare id kind values rfl
      refine ⟨kind, _, howned, ?_, EntityRecord.extended_by_receive ?_ values⟩
      · rw [registry_complete]
        exact get?_of_mem_shares (hkeys.nodup_targets request.entity) hshare
      · cases hrecord : registry.get? id with
        | some record => exact h.fits record (mem_of_get? hrecord)
        | none =>
            intro entry hentry
            obtain ⟨_, -, rfl⟩ := List.mem_map.mp hentry
            exact registry.layout.fits_fresh_series

/-- An entity to which the end of a request contributes without touching it has no series for the
metric. -/
theorem tracks_of_untouched {after : EntityRecord}
    (hid : id ∈ (PollCall.complete request result).contributions.map (·.id))
    (hafter : (registry.complete ranges request result).registry.get? id = some after)
    (huntouched : id ∉ (registry.complete ranges request result).touched) :
    after.tracks request.metric = false := by
  rw [touched_eq_contributions, List.mem_filter, not_and, tracks, hafter] at huntouched
  simpa using huntouched hid

/-- The end of a request leaves the series of a record alone if it does not touch its entity. -/
theorem WellFormed.kept_by_complete (h : registry.WellFormed) (hkeys : result.HasDistinctKeys)
    {record : EntityRecord} (hrecord : record ∈ registry.records)
    (huntouched : record.id ∉ (registry.complete ranges request result).touched) :
    ∃ after, (registry.complete ranges request result).registry.get? record.id = some after ∧
      after.id = record.id ∧ after.kind = record.kind ∧ after.series = record.series := by
  have hfound := get?_of_mem h.nodup hrecord
  by_cases hid : record.id ∈ (PollCall.complete request result).contributions.map (·.id)
  · -- There are samples for the entity, but its record has no series for them.
    obtain ⟨given, hgiven, hsame⟩ := List.mem_map.mp hid
    obtain ⟨kind, after, -, hafter, hextended⟩ := h.extended_by_complete ranges hkeys hgiven
    rw [hsame, hfound, Option.getD_some] at hextended
    rw [hsame] at hafter
    have htracks := tracks_of_untouched hid hafter huntouched
    refine ⟨after, hafter, hextended.id, hextended.kind, hextended.series_eq ?_⟩
    rw [Bool.eq_false_iff] at htracks ⊢
    rwa [ne_eq, EntityRecord.tracks_iff, ← hextended.metrics, ← EntityRecord.tracks_iff]
  · exact ⟨record, (get?_complete_of_not_mem ranges hid).trans hfound, rfl, rfl, rfl⟩

end Registry

/-! ## What is changed and what is reported -/

/-- The end of a request, for any registry in which identifiers are unique and series fit and any
plan, if no key of the answer is repeated:
- the entities that it touches are listed once each, in the order of the answer; they are those to
  which it contributes and that have a series for the metric;
- records that were there and are not touched keep their identifiers, kinds and series;
- what is contributed to an entity extends the series of the metric in its record, and nothing else
  in that record changes; the record is new and of a kind that stands under the aggregate if there
  was none before;
- the entities that were not registered follow after the others in the order of the answer, and the
  registry stays well-formed;
- the plan remembers of all other histories what it did before. -/
theorem Registry.changes_what_it_reports {received : Received} {contributions : List Contribution}
    {result : FetchResult} (h : registry.WellFormed) (hkeys : result.HasDistinctKeys)
    (ranges : Ranges) (plan : FetchPlan) (request : FetchRequest)
    (hreceived : received = registry.complete ranges request result)
    (hcontributions : contributions = (PollCall.complete request result).contributions) :
    received.touched.Nodup ∧
    received.touched =
      (contributions.map (·.id)).filter (received.registry.tracks · request.metric) ∧
    (∀ record ∈ registry.records, record.id ∉ received.touched → ∃ after,
      received.registry.get? record.id = some after ∧
      after.id = record.id ∧ after.kind = record.kind ∧ after.series = record.series) ∧
    (∀ given ∈ contributions, ∃ kind after, OwnedBy request.entity given.id kind ∧
      received.registry.get? given.id = some after ∧
      ((registry.get? given.id).getD (.fresh registry.layout given.id kind)).ExtendedBy
        request.metric (ranges.samples request.metric given.values) after) ∧
    received.registry.ids =
      registry.ids ++ (contributions.map (·.id)).filter (!registry.contains ·) ∧
    received.registry.WellFormed ∧
    ∀ pair ≠ request.pair,
      (pair ∈ (plan.settle request result.answered).seeded ↔ pair ∈ plan.seeded) ∧
      (pair ∈ (plan.settle request result.answered).outstanding ↔ pair ∈ plan.outstanding) := by
  subst hreceived hcontributions
  have htouched := touched_eq_contributions registry ranges request result
  refine ⟨?nodup, htouched, fun record => h.kept_by_complete hkeys,
    fun given => h.extended_by_complete ranges hkeys, ids_complete ranges hkeys, ?formed, ?plan⟩
  case nodup =>
    rw [htouched, PollCall.map_id_contributions]
    exact (hkeys.nodup_targets request.entity).filter _
  case formed =>
    rw [registry_complete]
    exact h.of_grows (.foldl_receive registry _)
  case plan =>
    intro pair hpair
    rw [FetchPlan.mem_seeded_settle, FetchPlan.mem_outstanding_settle]
    exact ⟨or_iff_left fun hanswered => hpair hanswered.2, and_iff_left hpair⟩

/-- The processes of `db` are polled, with two samples for each metric. -/
def processesOfDb : Settings where
  mode := .pull
  watchersWithPids := ["db"]
  layout := { capacity := 2, prefill := true }

/-- A session that polls `db` and in which `db-9` stands for a pool of sockets. -/
def withSocketLikeProcess : Engine :=
  .reached processesOfDb [.wireConfigured, .wire "db-9" (.aggregate .socket)]

/-- An answer with a new process, a key without a list, the aggregate, and an entity that does not
have the metric. -/
def answerOfProcesses : String :=
  "\x7b\"7\": [150, \"n/a\", -3], \"x\": null, \"db\": [5], \"9\": [4]\x7d"

/-- The new process and the aggregate are touched, and what is no process keeps its series. -/
theorem Registry.changes_what_it_reports_processes :
    ∃ response received pool process, StatsResponse.decode answerOfProcesses = .ok response ∧
      received = withSocketLikeProcess.registry.complete processesOfDb.ranges ⟨"db", .cpu, none⟩
        (.ok response) ∧
      received.touched = ["db-7", "db"] ∧
      received.registry.ids = ["db", "db-9", "db-7"] ∧
      received.registry.get? "db-9" = some pool ∧
      pool.series = [(.reads, ⟨2, [.zero, .zero]⟩)] ∧
      received.registry.get? "db-7" = some process ∧
      process.series? .cpu = some ⟨2, [.ofInt 100, .ofInt 0]⟩ := by
  have hdecode : StatsResponse.decode answerOfProcesses = .ok (.keyed
      [("7", .array [.number (.integer 150), .string "n/a", .number (.integer (-3))]),
        ("x", .null), ("db", .array [.number (.integer 5)]),
        ("9", .array [.number (.integer 4)])]) := by
    decide +kernel
  have hformed : withSocketLikeProcess.registry.WellFormed := Engine.well_formed_reached _ _
  obtain ⟨-, htouched, hkept, hextended, hids, -, -⟩ := changes_what_it_reports hformed
    (StatsResponse.distinct_keys_of_decode hdecode) processesOfDb.ranges (.empty { })
    ⟨"db", .cpu, none⟩ rfl rfl
  have htouched := htouched.trans (by decide +kernel : _ = ["db-7", "db"])
  obtain ⟨pool, hpool, -, -, hseries⟩ :=
    hkept (Engine.wiredRecord processesOfDb "db-9" (.aggregate .socket)) (by decide +kernel)
      (by rw [htouched]; decide)
  obtain ⟨kind, process, howned, hprocess, hsamples⟩ :=
    hextended ⟨"db-7", .cpu, [.number (.integer 150), .string "n/a", .number (.integer (-3))]⟩
      (List.mem_cons_self)
  refine ⟨_, _, pool, process, hdecode, rfl, htouched, hids.trans (by decide +kernel), hpool,
    hseries.trans (by decide), hprocess, hsamples.extended.trans ?_⟩
  have hnew : withSocketLikeProcess.registry.get? "db-7" = none := by decide +kernel
  have hmetric : .cpu ∈ withSocketLikeProcess.registry.layout.metricsFor kind.family := by
    rw [howned.family_eq]
    decide +kernel
  rw [hnew, Option.getD_none, EntityRecord.series?_fresh hmetric]
  decide +kernel

end StatsBoard
