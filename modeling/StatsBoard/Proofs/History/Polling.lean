import StatsBoard.Proofs.History.Fetching
import StatsBoard.Proofs.Wiring

/-!
# Sessions that poll

A session that polls makes the requests that are due and handles the ends of those that are
outstanding, in any order. The plan of the session and the requests that are outstanding are those
of a run of a fetch plan (`fetching_of_run`), and the registry holds the configured aggregates and
their children (`sound_of_run`).
-/

namespace StatsBoard

/-! ## Handling the end of a request -/

namespace Engine

variable {engine : Engine} {request : FetchRequest} {result : FetchResult}

/-- While a request for the aggregate is outstanding, nothing is drawn. -/
theorem handle_fetched_of_busy
    (h : (engine.plan.settle request result.answered).idle request.entity = false) :
    engine.handleFetched request result = engine.store request result := by
  rw [handleFetched, store, h, if_neg Bool.false_ne_true]

/-- With the last outstanding request for the aggregate, what waits under it is drawn. -/
theorem handle_fetched_of_idle
    (h : (engine.plan.settle request result.answered).idle request.entity) :
    engine.handleFetched request result =
      (engine.store request result).flushWhere (·.belongsTo request.entity) := by
  rw [handleFetched, store, h, if_pos rfl]

/-- The parts of what a request ended with are stored. -/
theorem registry_store :
    (engine.store request result).registry =
      (result.shares request.entity).foldl
        (Registry.receive engine.settings.ranges request.metric) engine.registry :=
  Registry.registry_complete request result

/-- The end of a request stores the parts of what it ended with. -/
theorem registry_handle_fetched :
    (engine.handleFetched request result).registry =
      (result.shares request.entity).foldl
        (Registry.receive engine.settings.ranges request.metric) engine.registry := by
  rw [← registry_store, handleFetched]
  split <;> rfl

/-- The end of a request is noted in the plan. -/
theorem plan_handle_fetched :
    (engine.handleFetched request result).plan = engine.plan.settle request result.answered := by
  rw [handleFetched]
  split <;> rfl

@[simp] theorem settings_handle_fetched :
    (engine.handleFetched request result).settings = engine.settings := by
  rw [handleFetched]
  split <;> rfl

/-- What waits after the end of a request waited before or is an entity for which it brought
samples. -/
theorem mem_pending_store {id : String}
    (h : id ∈ (engine.store request result).redraw.pending) :
    id ∈ engine.redraw.pending ∨
      id ∈ (result.shares request.entity).filterMap Share.target? := by
  rcases (Redraw.mem_pending_foldl_mark _).mp h with hold | hnew
  · exact Or.inl hold
  · exact Or.inr (Registry.mem_targets_of_touched hnew)

/-- The session polls with given settings: the registry holds the configured aggregates and their
children, and only registered entities wait to be drawn. -/
structure Sound (settings : Settings) (engine : Engine) : Prop where
  settings_eq : engine.settings = settings
  layout_eq : engine.registry.layout = settings.layout
  orderly : engine.registry.Orderly (configured settings)
  waiting : ∀ id ∈ engine.redraw.pending, engine.registry.contains id

variable {settings : Settings}

/-- A session is sound once the configured aggregates are wired. -/
theorem Sound.wire_configured (settings : Settings) :
    (new settings).wireConfigured.Sound settings where
  settings_eq := settings_wire_configured settings
  layout_eq := layout_wire_configured settings
  orderly := by
    have hlookup : ∀ id record,
        (new settings).wireConfigured.registry.get? id = some record →
          id ∈ configured settings ∧
          record = (EntityRecord.fresh settings.layout id (.ofAggregate id)).markSubscribed := by
      intro id record hrecord
      rw [get?_wire_configured] at hrecord
      split at hrecord
      next hname => exact ⟨hname, (Option.some.inj hrecord).symm⟩
      next => cases hrecord
    refine ⟨?_, ?_, ?_⟩
    · rw [ids_wire_configured]
      exact nodup_erase_dups _
    · intro id record hrecord
      obtain ⟨hname, rfl⟩ := hlookup id record hrecord
      exact ⟨id, hname, .itself⟩
    · intro id record hrecord
      obtain ⟨_, rfl⟩ := hlookup id record hrecord
      simp [layout_wire_configured]
  waiting id hid := absurd hid (pending_wire_configured settings id)

/-- A flush leaves a session sound. -/
theorem Sound.flush_where (h : engine.Sound settings) (wanted : EntityRecord → Bool) :
    (engine.flushWhere wanted).Sound settings where
  settings_eq := h.settings_eq
  layout_eq := h.layout_eq
  orderly := h.orderly
  waiting := fun id hid => h.waiting id (mem_pending_flush_where.mp hid).1

/-- Storing what a request for a configured aggregate ended with leaves a session sound. -/
theorem Sound.store (h : engine.Sound settings) (hentity : request.entity ∈ configured settings)
    (result : FetchResult) : (engine.store request result).Sound settings where
  settings_eq := h.settings_eq
  layout_eq := by
    rw [registry_store, Registry.layout_foldl_receive, h.layout_eq]
  orderly := by
    rw [registry_store]
    exact h.orderly.foldl_receive hentity fun _ => FetchResult.is_under_of_mem_shares
  waiting := by
    intro id hid
    rw [registry_store, Registry.contains_foldl_receive]
    exact (mem_pending_store hid).imp_left (h.waiting id)

/-- The end of a request for a configured aggregate leaves a session sound. -/
theorem Sound.handle_fetched (h : engine.Sound settings)
    (hentity : request.entity ∈ configured settings) (result : FetchResult) :
    (engine.handleFetched request result).Sound settings := by
  have hstored := h.store hentity result
  cases hidle : (engine.plan.settle request result.answered).idle request.entity with
  | true =>
      rw [handle_fetched_of_idle hidle]
      exact hstored.flush_where _
  | false => rwa [handle_fetched_of_busy hidle]

end Engine

/-! ## Runs -/

/-- What happens in a session that polls. -/
inductive PollCall where
  | plan
  | complete (request : FetchRequest) (result : FetchResult)

/-- What happens in a session, as a call on its plan. -/
def PollCall.onPlan : PollCall → PlanCall
  | plan => .plan
  | complete request result => .complete request result

/-- A session that polls, with the requests that were made and have not ended. -/
structure PollState where
  engine : Engine
  outstanding : List FetchRequest := []

namespace PollState

/-- Once the configured aggregates are wired. -/
def start (settings : Settings) : PollState := { engine := (Engine.new settings).wireConfigured }

/-- One thing that happens; only a request that is outstanding can end. -/
def step? (state : PollState) : PollCall → Option PollState
  | .plan => some ⟨state.engine.planFetches, state.outstanding ++ state.engine.requests⟩
  | .complete request result =>
    if request ∈ state.outstanding then
      some ⟨state.engine.handleFetched request result, state.outstanding.erase request⟩
    else none

/-- What happens, in order. -/
def run? (state : PollState) (calls : List PollCall) : Option PollState :=
  calls.foldlM step? state

variable {settings : Settings} {calls : List PollCall} {state : PollState}

/-- The last thing happens in the state that the others reach. -/
theorem run_concat {first last : PollState} {call : PollCall} :
    first.run? (calls ++ [call]) = some last ↔
      ∃ middle, first.run? calls = some middle ∧ middle.step? call = some last := by
  simp [run?, List.foldlM_append, bind, Option.bind_eq_some_iff]

/-- Only a request that is outstanding can end. -/
theorem step_complete_iff {request : FetchRequest} {result : FetchResult} {after : PollState} :
    state.step? (.complete request result) = some after ↔ request ∈ state.outstanding ∧
      ⟨state.engine.handleFetched request result, state.outstanding.erase request⟩ = after := by
  rw [step?, Option.ite_none_right_eq_some, Option.some.injEq]

/-- A run goes on with the end of an outstanding request. -/
theorem run_complete {first : PollState} {request : FetchRequest}
    (h : first.run? calls = some state) (hrequest : request ∈ state.outstanding)
    (result : FetchResult) : first.run? (calls ++ [.complete request result]) =
      some ⟨state.engine.handleFetched request result, state.outstanding.erase request⟩ :=
  run_concat.mpr ⟨state, h, step_complete_iff.mpr ⟨hrequest, rfl⟩⟩

/-- What holds at first, and after each thing that happens if it held before, holds of every
run. -/
@[elab_as_elim]
theorem run_induction {first : PollState}
    {motive : (calls : List PollCall) → (state : PollState) → first.run? calls = some state → Prop}
    (start : motive [] first rfl)
    (plan : ∀ calls state (h : first.run? calls = some state), motive calls state h →
      motive (calls ++ [.plan])
        ⟨state.engine.planFetches, state.outstanding ++ state.engine.requests⟩
        (run_concat.mpr ⟨state, h, rfl⟩))
    (complete : ∀ calls state request result (h : first.run? calls = some state)
      (hrequest : request ∈ state.outstanding), motive calls state h →
      motive (calls ++ [.complete request result])
        ⟨state.engine.handleFetched request result, state.outstanding.erase request⟩
        (run_complete h hrequest result))
    (h : first.run? calls = some state) : motive calls state h := by
  induction calls using List.reverseRecOn generalizing state with
  | nil =>
      obtain rfl : first = state := Option.some.inj h
      exact start
  | append_singleton calls call ih =>
      obtain ⟨before, hrun, hstep⟩ := run_concat.mp h
      cases call with
      | plan =>
          obtain rfl := Option.some.inj hstep
          exact plan calls before hrun (ih hrun)
      | complete request result =>
          obtain ⟨hrequest, rfl⟩ := step_complete_iff.mp hstep
          exact complete calls before request result hrun hrequest (ih hrun)

/-- The calls by which aggregates come to be tracked. -/
def tracking (layout : SeriesLayout) (names : List String) : List PlanCall :=
  names.map fun name => .track name (layout.metricsFor (.ofAggregate name))

/-- What is tracked by those calls. -/
theorem target_of_mem_tracking {layout : SeriesLayout} {names : List String}
    {target : String × List Metric}
    (h : target ∈ (tracking layout names).filterMap PlanCall.target?) :
    target.1 ∈ names ∧ target.2 = layout.metricsFor (.ofAggregate target.1) := by
  simp only [tracking, List.filterMap_map, List.mem_filterMap] at h
  obtain ⟨name, hname, htarget⟩ := h
  obtain rfl := Option.some.inj htarget
  exact ⟨hname, rfl⟩

/-- Once the session runs, nothing more is tracked. -/
theorem targets_on_plan (calls : List PollCall) :
    (calls.map PollCall.onPlan).filterMap PlanCall.target? = [] := by
  rw [List.filterMap_eq_nil_iff, List.forall_mem_map]
  intro call _
  cases call <;> rfl

/-- The plan of a session in which aggregates have just been wired tracks those. -/
theorem fetching_of_wire_all (hmode : settings.mode = .pull) (names : List String) :
    (Fetching.start settings.tail).run? (tracking settings.layout names) =
      some ⟨((Engine.new settings).wireAll names).plan, []⟩ := by
  induction names using List.reverseRecOn with
  | nil => rfl
  | append_singleton names name ih =>
      have hnames := Engine.just_wired_wire_all settings names
      rw [tracking, List.map_append, ← tracking]
      refine Fetching.run_concat.mpr ⟨_, ih, congrArg some (congrArg (Fetching.mk · []) ?_)⟩
      rw [Engine.wire_all_concat]
      cases hwired : ((Engine.new settings).wireAll names).isWired name with
      | true =>
          have hname : name ∈ names := (hnames.is_wired_iff_mem name).mp hwired
          have htracks : ((Engine.new settings).wireAll names).plan.tracks name := by
            rw [FetchPlan.tracks, (Fetching.Agrees.of_run ih).targets, PlanCall.targets,
              any_first_of_each]
            simpa [tracking, PlanCall.target?] using hname
          rw [Engine.wire_of_wired hwired, FetchPlan.track, if_pos htracks]
      | false =>
          have hname : name ∉ names := fun hname => by
            simp [(hnames.is_wired_iff_mem name).mpr hname] at hwired
          -- The metrics that are tracked are those of the record that was just enlisted.
          have hpull : ((Engine.new settings).wireAll names).settings.mode = .pull := by
            rw [hnames.settings_eq, hmode]
          rw [Engine.wire_of_pull hpull hwired, Engine.track, Engine.enlist]
          dsimp only
          rw [Registry.get?_enlist, if_pos rfl, hnames.lookup, if_neg hname, hnames.layout]
          simp [EntityKind.ofAggregate, EntityKind.family]

/-- The plan of a session that polls, and its outstanding requests, are those of a run of a fetch
plan. -/
theorem fetching_of_run (hmode : settings.mode = .pull)
    (h : (start settings).run? calls = some state) :
    (Fetching.start settings.tail).run?
        (tracking settings.layout (Engine.configured settings) ++ calls.map PollCall.onPlan) =
      some ⟨state.engine.plan, state.outstanding⟩ := by
  induction h using run_induction with
  | start =>
      rw [List.map_nil, List.append_nil, fetching_of_wire_all hmode]
      rfl
  | plan calls before hrun ih =>
      rw [List.map_append, ← List.append_assoc]
      exact Fetching.run_concat.mpr ⟨_, ih, rfl⟩
  | complete calls before request result hrun hrequest ih =>
      rw [List.map_append, ← List.append_assoc, Engine.plan_handle_fetched]
      exact Fetching.run_concat.mpr ⟨_, ih, Fetching.step_complete_iff.mpr ⟨hrequest, rfl⟩⟩

/-- Each outstanding request is for a configured aggregate and one of the metrics of its family. -/
theorem configured_of_outstanding (hmode : settings.mode = .pull)
    (h : (start settings).run? calls = some state) {request : FetchRequest}
    (hrequest : request ∈ state.outstanding) :
    request.entity ∈ Engine.configured settings ∧
      request.metric ∈ settings.layout.metricsFor (.ofAggregate request.entity) := by
  have hagrees := Fetching.Agrees.of_run (fetching_of_run hmode h)
  have hpair : request.pair ∈ state.engine.plan.pairs := by
    apply hagrees.tracked
    rw [hagrees.outstanding]
    exact List.mem_map_of_mem hrequest
  obtain ⟨target, htarget, hpair⟩ := List.mem_flatMap.mp hpair
  obtain ⟨metric, hmetric, hpair⟩ := List.mem_map.mp hpair
  obtain ⟨hentity, rfl⟩ : target.1 = request.entity ∧ metric = request.metric :=
    Prod.mk.inj hpair
  rw [hagrees.targets, PlanCall.targets] at htarget
  have hcall := mem_of_mem_first_of_each htarget
  rw [List.filterMap_append, targets_on_plan, List.append_nil] at hcall
  obtain ⟨hname, hmetrics⟩ := target_of_mem_tracking hcall
  rw [hentity] at hname hmetrics
  exact ⟨hname, hmetrics ▸ hmetric⟩

/-- Every run keeps the session sound. -/
theorem sound_of_run (hmode : settings.mode = .pull)
    (h : (start settings).run? calls = some state) : state.engine.Sound settings := by
  induction h using run_induction with
  | start => exact .wire_configured settings
  | plan calls before hrun ih => exact ⟨ih.settings_eq, ih.layout_eq, ih.orderly, ih.waiting⟩
  | complete calls before request result hrun hrequest ih =>
      exact ih.handle_fetched (configured_of_outstanding hmode hrun hrequest).1 result

end PollState

end StatsBoard
