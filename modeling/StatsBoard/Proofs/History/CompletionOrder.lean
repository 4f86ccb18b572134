import StatsBoard.Proofs.History.Completion

/-!
# The order in which requests end

Outstanding requests may end in any order. `completion_order_irrelevant` says that all orders lead
to the same records, the same plan, the same entities that wait, and the same frames; only the
order in which children were discovered and frames were drawn depends on it.
-/

namespace StatsBoard

/-! ## Answers reach a record in either order -/

/-- A step can be taken before a fold or after it, if it can be exchanged with each step of the
fold. -/
theorem foldl_step_comm {α γ : Type} {f : γ → α → γ} {step : γ → γ} {items : List α}
    (h : ∀ item ∈ items, ∀ start, f (step start) item = step (f start item)) (start : γ) :
    items.foldl f (step start) = step (items.foldl f start) := by
  induction items generalizing start with
  | nil => rfl
  | cons item items ih =>
      rw [List.forall_mem_cons] at h
      rw [List.foldl_cons, List.foldl_cons, h.1, ih h.2]

/-- Folds can be exchanged if their steps can. -/
theorem foldl_foldl_comm {α β γ : Type} {f : γ → α → γ} {g : γ → β → γ} {first : List α}
    {second : List β} (h : ∀ x ∈ first, ∀ y ∈ second, ∀ start, g (f start x) y = f (g start y) x)
    (start : γ) : second.foldl g (first.foldl f start) = first.foldl f (second.foldl g start) := by
  induction first generalizing start with
  | nil => rfl
  | cons x first ih =>
      rw [List.forall_mem_cons] at h
      rw [List.foldl_cons, List.foldl_cons, ih h.2]
      exact congrArg (first.foldl f ·) (foldl_step_comm h.1 start)

variable {names : List String} {first second : String} {metric other : Metric} {ranges : Ranges}
  {layout : SeriesLayout} {id : String}

/-- Parts of answers for different histories can reach a record in either order. -/
theorem Share.reach_comm (hnames : Unambiguous names) (hfirst : first ∈ names)
    (hsecond : second ∈ names) (hpair : (first, metric) ≠ (second, other)) {share more : Share}
    (hshare : share.IsUnder first) (hmore : more.IsUnder second) (found : Option EntityRecord) :
    more.reach ranges other layout id (share.reach ranges metric layout id found) =
      share.reach ranges metric layout id (more.reach ranges other layout id found) := by
  cases share with
  | skipped key => rfl
  | samples target kind values =>
      cases more with
      | skipped key => rfl
      | samples otherTarget otherKind otherValues =>
          have howned : OwnedBy first target kind := hshare target kind values rfl
          have hother : OwnedBy second otherTarget otherKind := hmore _ _ _ rfl
          simp only [reach]
          by_cases htarget : id = target
          · by_cases hotherTarget : id = otherTarget
            · -- Both parts are for one entity, so they bring samples of different metrics.
              obtain rfl : target = otherTarget := htarget.symm.trans hotherTarget
              obtain ⟨rfl, rfl⟩ := howned.unique hnames hfirst hsecond hother
              have hmetric : metric ≠ other := fun hmetric => hpair (hmetric ▸ rfl)
              simp only [if_pos htarget, Option.getD_some, EntityRecord.receive_comm hmetric]
            · simp only [if_pos htarget, if_neg hotherTarget]
          · simp only [if_neg htarget]

/-- Ends of requests for different histories can reach a record in either order. -/
theorem Completion.reach_comm (hnames : Unambiguous names) {completion more : Completion}
    (hcompletion : completion.request.entity ∈ names) (hmore : more.request.entity ∈ names)
    (hpair : completion.request.pair ≠ more.request.pair) (found : Option EntityRecord) :
    more.reach ranges layout id (completion.reach ranges layout id found) =
      completion.reach ranges layout id (more.reach ranges layout id found) := by
  apply foldl_foldl_comm
  intro share hshare other hother
  exact Share.reach_comm hnames hcompletion hmore hpair
    (FetchResult.is_under_of_mem_shares hshare) (FetchResult.is_under_of_mem_shares hother)

/-! ## Sessions that differ in order only -/

namespace Engine

/-- Sessions that know the same entities with the same records, have the same histories answered
and outstanding, have the same entities waiting, and have drawn the same frames. -/
structure SameUpToOrder (first second : Engine) : Prop where
  settings : first.settings = second.settings
  ids : first.registry.ids.Perm second.registry.ids
  lookup : ∀ id, first.registry.get? id = second.registry.get? id
  tail : first.plan.tail = second.plan.tail
  targets : first.plan.targets = second.plan.targets
  seeded : ∀ pair, pair ∈ first.plan.seeded ↔ pair ∈ second.plan.seeded
  outstanding : ∀ pair, pair ∈ first.plan.outstanding ↔ pair ∈ second.plan.outstanding
  pending : ∀ id, id ∈ first.redraw.pending ↔ id ∈ second.redraw.pending
  frames : first.frames.Perm second.frames

variable {engine : Engine} {settings : Settings} {completions more : List Completion}

/-- Whether ends of requests can be handled does not depend on their order. -/
theorem Awaits.perm (h : engine.Awaits settings completions) (hperm : completions.Perm more) :
    engine.Awaits settings more where
  entity := fun completion hmem => h.entity completion (hperm.mem_iff.mpr hmem)
  metric := fun completion hmem => h.metric completion (hperm.mem_iff.mpr hmem)
  outstanding := fun completion hmem => h.outstanding completion (hperm.mem_iff.mpr hmem)
  nodup := (hperm.map _).nodup_iff.mp h.nodup

/-- In whatever order requests end, each record becomes the same. -/
theorem get?_complete_all_of_perm (hnames : Unambiguous (configured settings))
    (hawaits : engine.Awaits settings completions) (hperm : completions.Perm more) (id : String) :
    (engine.completeAll completions).registry.get? id =
      (engine.completeAll more).registry.get? id := by
  rw [get?_complete_all, get?_complete_all]
  refine hperm.foldl_eq' ?_ _
  intro completion hcompletion other hother found
  -- Ends of requests for one history are one end, as the requests differ in their histories.
  by_cases hpair : completion.request.pair = other.request.pair
  · rw [List.inj_on_of_nodup_map hawaits.nodup hcompletion hother hpair]
  · exact Completion.reach_comm hnames (hawaits.entity completion hcompletion)
      (hawaits.entity other hother) hpair found

/-- In whatever order requests end, the same ones stay outstanding. -/
theorem mem_outstanding_complete_all_of_perm (hperm : completions.Perm more)
    (pair : String × Metric) :
    pair ∈ (engine.completeAll completions).plan.outstanding ↔
      pair ∈ (engine.completeAll more).plan.outstanding := by
  simp only [mem_outstanding_complete_all, hperm.mem_iff]

/-- In whatever order requests end, the same aggregates are closed. -/
theorem closed_complete_all_of_perm (hperm : completions.Perm more) (id : String) :
    Closed (engine.completeAll completions).plan completions id ↔
      Closed (engine.completeAll more).plan more id := by
  simp only [Closed, FetchPlan.idle_iff, mem_outstanding_complete_all_of_perm hperm, hperm.mem_iff]

/-- The same entities are marked in whatever order requests end. -/
theorem marked_of_perm (hperm : completions.Perm more) (id : String) :
    engine.Marked completions id ↔ engine.Marked more id := by
  simp only [Marked, hperm.mem_iff]

/-- Requests that a sound session awaits may end in any order. -/
theorem Sound.same_up_to_order (hsound : engine.Sound settings)
    (hnames : Unambiguous (configured settings)) (hawaits : engine.Awaits settings completions)
    (hperm : completions.Perm more) :
    (engine.completeAll completions).SameUpToOrder (engine.completeAll more) := by
  have hmore := hawaits.perm hperm
  have hlookup := get?_complete_all_of_perm hnames hawaits hperm
  have hfirst := Completed.of_awaits hsound hnames hawaits
  have hsecond := Completed.of_awaits hsound hnames hmore
  refine ⟨?settings, ?ids, hlookup, ?tail, ?targets, ?seeded,
    mem_outstanding_complete_all_of_perm hperm, ?pending, ?frames⟩
  case settings => rw [settings_complete_all, settings_complete_all]
  case ids =>
    have hrecords := Registry.perm_of_get?_eq (hsound.complete_all hawaits).orderly.nodup
      (hsound.complete_all hmore).orderly.nodup hlookup
    exact hrecords.map _
  case tail => rw [tail_complete_all, tail_complete_all]
  case targets => rw [targets_complete_all, targets_complete_all]
  case seeded =>
    intro pair
    simp only [mem_seeded_complete_all, hperm.mem_iff]
  case pending =>
    intro id
    rw [hfirst.pending, hsecond.pending, marked_of_perm hperm, closed_complete_all_of_perm hperm]
  case frames =>
    obtain ⟨drawn, hnodup, hdrawn, hframes⟩ := hfirst.drawn
    obtain ⟨others, hothersNodup, hothers, hothersFrames⟩ := hsecond.drawn
    -- Both orders draw the same records once each.
    have hpermDrawn : drawn.Perm others := by
      rw [List.perm_ext_iff_of_nodup hnodup hothersNodup]
      intro record
      rw [hdrawn, hothers, hlookup, marked_of_perm hperm, closed_complete_all_of_perm hperm]
    rw [hframes, hothersFrames]
    exact (hpermDrawn.map _).append_left _

end Engine

namespace PollState

variable {settings : Settings} {calls : List PollCall} {state : PollState}
  {completions more : List Completion}

/-- The ends of different outstanding requests can be handled. -/
theorem awaits_of_run (hmode : settings.mode = .pull)
    (h : (start settings).run? calls = some state)
    (hnodup : (completions.map (·.request)).Nodup)
    (houtstanding : ∀ completion ∈ completions, completion.request ∈ state.outstanding) :
    state.engine.Awaits settings completions where
  entity := fun completion hmem =>
    (configured_of_outstanding hmode h (houtstanding completion hmem)).1
  metric := fun completion hmem =>
    (configured_of_outstanding hmode h (houtstanding completion hmem)).2
  outstanding := by
    intro completion hmem
    rw [(Fetching.Agrees.of_run (fetching_of_run hmode h)).outstanding]
    exact List.mem_map_of_mem (houtstanding completion hmem)
  nodup := by
    have hagrees := Fetching.Agrees.of_run (fetching_of_run hmode h)
    have hpairs : (state.outstanding.map (·.pair)).Nodup := hagrees.outstanding ▸ hagrees.nodup
    have hmap : completions.map (·.request.pair) =
        (completions.map (·.request)).map FetchRequest.pair := by
      rw [List.map_map]
      rfl
    rw [hmap]
    refine hnodup.map_on ?_
    simp only [List.forall_mem_map]
    intro completion hmem other hother
    exact List.inj_on_of_nodup_map hpairs (houtstanding completion hmem) (houtstanding other hother)

/-- At every moment of a session that polls, outstanding requests may end in any order: if no
configured aggregate is named like a child of another, all orders lead to the same registered
entities with the same records, the same plan, the same entities that wait and the same frames, up
to the order of discovery and of drawing. -/
theorem completion_order_irrelevant (hmode : settings.mode = .pull)
    (hnames : Unambiguous (Engine.configured settings))
    (h : (start settings).run? calls = some state)
    (hnodup : (completions.map (·.request)).Nodup)
    (houtstanding : ∀ completion ∈ completions, completion.request ∈ state.outstanding)
    (hperm : completions.Perm more) :
    (state.engine.completeAll completions).SameUpToOrder (state.engine.completeAll more) :=
  (sound_of_run hmode h).same_up_to_order hnames (awaits_of_run hmode h hnodup houtstanding) hperm

/-- The processes of `db` are polled. -/
def processesOfDb : Settings := { mode := .pull, watchersWithPids := ["db"] }

/-- The answer to a request for a metric of the processes of `db`, with a sample of one process. -/
def sampleOfProcess (metric : Metric) (key : String) : Completion where
  request := ⟨"db", metric, none⟩
  result := .ok (.keyed [(key, .array [.number (.integer 1)])])

/-- Two processes are discovered in the order in which their samples arrive, and nothing else
depends on that order. -/
theorem completion_order_irrelevant_two_processes :
    ∃ state, (start processesOfDb).run? [.plan] = some state ∧
      (state.engine.completeAll [sampleOfProcess .cpu "1", sampleOfProcess .mem "2"]).registry.ids =
        ["db", "db-1", "db-2"] ∧
      (state.engine.completeAll [sampleOfProcess .mem "2", sampleOfProcess .cpu "1"]).registry.ids =
        ["db", "db-2", "db-1"] ∧
      (state.engine.completeAll
        [sampleOfProcess .cpu "1", sampleOfProcess .mem "2"]).SameUpToOrder
        (state.engine.completeAll [sampleOfProcess .mem "2", sampleOfProcess .cpu "1"]) := by
  have hrun : (start processesOfDb).run? [.plan] = some _ := rfl
  have hnames : Unambiguous (Engine.configured processesOfDb) := by decide
  refine ⟨_, hrun, rfl, rfl, completion_order_irrelevant rfl hnames hrun ?_ ?_ ?_⟩
  · decide
  · decide
  · exact .swap ..

end PollState

end StatsBoard
