import StatsBoard.Config.Basic
import StatsBoard.Proofs.History.Completion
import StatsBoard.Proofs.History.Contributions

/-!
# Whose samples a series holds

An answer contributes to the aggregate that was asked for and to entities named like its children.
If no configured aggregate is named like a child of another, then these belong to the aggregate, and
a series holds only samples from answers to requests for its own aggregate
(`fed_by_own_aggregate`). A configuration in which one is can be used all the same, and then a
series mixes the samples of two aggregates (`namesake_fed_by_both`).
-/

namespace StatsBoard

/-- A call handles the end of a request for an aggregate. -/
def PollCall.isFor (entity : String) : PollCall → Bool
  | plan => false
  | complete request _ => request.entity == entity

/-- The end of a request contributes to the entities for which it brings samples. -/
theorem PollCall.map_id_contributions (request : FetchRequest) (result : FetchResult) :
    (complete request result).contributions.map (·.id) =
      (Completion.mk request result).targets := by
  rw [contributions_complete, List.map_filterMap]
  refine List.filterMap_congr fun share _ => ?_
  cases share <;> rfl

namespace Engine.Sound

variable {engine : Engine} {settings : Settings} {completion : Completion}

/-- The end of a request changes only records of its aggregate. -/
theorem belongs_to_of_changed (h : engine.Sound settings)
    (hnames : Unambiguous (configured settings))
    (hentity : completion.request.entity ∈ configured settings) {id : String}
    (hchanged : (engine.complete completion).registry.get? id ≠ engine.registry.get? id) :
    ∃ record, (engine.complete completion).registry.get? id = some record ∧
      record.belongsTo completion.request.entity := by
  have htarget : id ∈ completion.targets := by
    by_contra hid
    exact hchanged (get?_complete_of_not_mem_targets hid)
  have hregistered : (engine.complete completion).registry.contains id := by
    rw [complete, registry_handle_fetched, Registry.contains_foldl_receive]
    exact Or.inr htarget
  rw [Registry.contains_eq_is_some, Option.isSome_iff_exists] at hregistered
  obtain ⟨record, hrecord⟩ := hregistered
  obtain rfl := Registry.id_of_get? hrecord
  obtain ⟨aggregate, haggregate, howned⟩ :=
    (h.handle_fetched hentity completion.result).orderly.owned record.id record hrecord
  obtain ⟨_, hunder⟩ := Completion.owned_of_mem_targets htarget
  have hsame := (howned.unique hnames haggregate hentity hunder).1
  exact ⟨record, hrecord, (howned.belongs_to_iff hnames haggregate hentity).mpr hsame⟩

end Engine.Sound

namespace PollState

variable {settings : Settings} {calls : List PollCall} {state : PollState} {entity id : String}
  {kind : EntityKind}

/-- An entity under an aggregate has its samples from answers to requests for the aggregate. -/
theorem contributed_by_own (hmode : settings.mode = .pull)
    (hnames : Unambiguous (Engine.configured settings))
    (h : (start settings).run? calls = some state) (hentity : entity ∈ Engine.configured settings)
    (howned : OwnedBy entity id kind) (metric : Metric) :
    contributedSamples settings.ranges id metric (contributionsOf calls) =
      contributedSamples settings.ranges id metric
        (contributionsOf (calls.filter (·.isFor entity))) := by
  induction calls using List.reverseRecOn generalizing state with
  | nil => rfl
  | append_singleton calls call ih =>
      obtain ⟨before, hrun, hstep⟩ := run_concat.mp h
      rw [contributions_of_concat, contributed_samples_append, ih hrun, List.filter_append]
      cases hcall : call.isFor entity with
      | true =>
          rw [List.filter_singleton, hcall, cond_true, contributions_of_concat,
            contributed_samples_append]
      | false =>
          rw [List.filter_singleton, hcall, cond_false, List.append_nil]
          refine (congrArg _ (contributed_samples_eq_nil ?_)).trans (List.append_nil _)
          cases call with
          | plan => exact fun given hgiven => absurd hgiven List.not_mem_nil
          | complete request result =>
              have hrequest := (step_complete_iff.mp hstep).1
              rintro given hgiven rfl
              have htarget : given.id ∈ (Completion.mk request result).targets := by
                rw [← PollCall.map_id_contributions]
                exact List.mem_map_of_mem hgiven
              obtain ⟨_, hunder⟩ := Completion.owned_of_mem_targets htarget
              have hsame := (howned.unique hnames hentity
                (configured_of_outstanding hmode hrun hrequest).1 hunder).1
              simp [PollCall.isFor, hsame] at hcall

/-- At every moment of a session that polls, if no configured aggregate is named like a child of
another: the end of a request changes only records that belong to its aggregate, and a series holds
only samples from answers to requests for the aggregate to which its record belongs. -/
theorem fed_by_own_aggregate (hmode : settings.mode = .pull)
    (hnames : Unambiguous (Engine.configured settings))
    (h : (start settings).run? calls = some state) :
    (∀ request result after, state.step? (.complete request result) = some after →
      ∀ id, after.engine.registry.get? id ≠ state.engine.registry.get? id →
        ∃ record, after.engine.registry.get? id = some record ∧
          record.belongsTo request.entity) ∧
    ∀ entity ∈ Engine.configured settings, ∀ record ∈ state.engine.registry.records,
      record.belongsTo entity → ∀ metric, record.tracks metric →
        record.series? metric = some ⟨settings.layout.capacity,
          lastItems settings.layout.capacity (settings.layout.initial ++
            contributedSamples settings.ranges record.id metric
              (contributionsOf (calls.filter (·.isFor entity))))⟩ := by
  have hsound := sound_of_run hmode h
  refine ⟨?step, ?series⟩
  case step =>
    intro request result after hstep id hchanged
    obtain ⟨hrequest, rfl⟩ : request ∈ state.outstanding ∧ _ = after := by
      simpa [step?] using hstep
    exact @Engine.Sound.belongs_to_of_changed _ _ ⟨request, result⟩ hsound hnames
      (configured_of_outstanding hmode h hrequest).1 id hchanged
  case series =>
    intro entity hentity record hrecord hbelongs metric htracks
    have hfound := Registry.get?_of_mem hsound.orderly.nodup hrecord
    obtain ⟨aggregate, haggregate, howned⟩ := hsound.orderly.owned _ record hfound
    obtain rfl := (howned.belongs_to_iff hnames haggregate hentity).mp hbelongs
    rw [← contributed_by_own hmode hnames h hentity howned, ← hsound.layout_eq]
    exact (holds_of_run hmode h).series _ record hfound metric (EntityRecord.tracks_iff.mp htracks)

/-- Two aggregates whose processes are polled. -/
def processesOfTwo : Settings :=
  { mode := .pull, watchersWithPids := ["db", "web"]
    layout := { capacity := 2, prefill := false } }

/-- The processor load of a process of `web` is reported. -/
def loadOfWebProcess : List PollCall :=
  [.plan, .complete ⟨"web", .cpu, none⟩ (.ok (.keyed [("1", .array [.number (.integer 5)])]))]

/-- An answer for one aggregate registers a process of it, and the process of the other under the
same key holds the sample from its own answer. -/
theorem fed_by_own_aggregate_same_key :
    ∃ state after record, (start processesOfTwo).run? loadOfWebProcess = some state ∧
      state.step? (.complete ⟨"db", .cpu, none⟩
        (.ok (.keyed [("1", .array [.number (.integer 7)])]))) = some after ∧
      after.engine.registry.get? "db-1" ≠ state.engine.registry.get? "db-1" ∧
      (∃ changed, after.engine.registry.get? "db-1" = some changed ∧ changed.belongsTo "db") ∧
      state.engine.registry.get? "web-1" = some record ∧
      record.series? .cpu = some ⟨2, [.ofInt 5]⟩ := by
  have hrun : (start processesOfTwo).run? loadOfWebProcess = some _ := rfl
  obtain ⟨hstep, hseries⟩ := fed_by_own_aggregate rfl (by decide) hrun
  have hchanged := hstep ⟨"db", .cpu, none⟩
    (.ok (.keyed [("1", .array [.number (.integer 7)])])) _ rfl "db-1" (by decide)
  refine ⟨_, _, _, hrun, rfl, by decide, hchanged, rfl, ?_⟩
  exact (hseries "web" (by decide) _ (@Registry.mem_of_get? _ "web-1" _ rfl) (by decide) .cpu
    (by decide)).trans (by decide +kernel)

/-- One of two aggregates is named like a child of the other. -/
def namesakes : Config :=
  { mode := .pull, watchers := ["a", "a-b"], watcherMetrics := [.cpu] }

/-- What the series of the processor load of an entity holds. -/
def load? (state : PollState) (id : String) : Option Series :=
  (state.engine.registry.get? id).bind (·.series? .cpu)

/-- A configuration in which an aggregate is named like a child of another can be used, and then the
end of a request for the other changes a record that does not belong to it; the series holds samples
of both. -/
theorem namesake_fed_by_both :
    namesakes.validate = .ok () ∧
    ∃ state middle after record, (start namesakes.settings).run? [.plan] = some state ∧
      state.step? (.complete ⟨"a", .cpu, none⟩
        (.ok (.keyed [("b", .array [.number (.integer 1)])]))) = some middle ∧
      middle.step? (.complete ⟨"a-b", .cpu, none⟩
        (.ok (.samples [.number (.integer 2)]))) = some after ∧
      middle.engine.registry.get? "a-b" = some record ∧ record.belongsTo "a" = false ∧
      state.load? "a-b" = some ⟨25, []⟩ ∧
      middle.load? "a-b" = some ⟨25, [.ofInt 1]⟩ ∧
      after.load? "a-b" = some ⟨25, [.ofInt 1, .ofInt 2]⟩ := by
  refine ⟨by decide +kernel, _, _, _, _, rfl, rfl, rfl, rfl, by decide, by decide, ?_, ?_⟩
  · decide +kernel
  · decide +kernel

end PollState

end StatsBoard
