import StatsBoard.Proofs.History.Polling

/-!
# Ends of requests, one after the other

What a session is left with once several outstanding requests have ended. Each record holds what
the answers made of it, one by one (`get?_complete_all`). Of the entities that waited or were
brought by an answer, those under an aggregate without an outstanding request have been drawn once,
with the record that they have at the end, and the others wait (`Completed.of_awaited`).
-/

namespace StatsBoard

/-- A request with what it ended with. -/
structure Completion where
  request : FetchRequest
  result : FetchResult

namespace Completion

/-- The parts of what the request ended with. -/
def shares (completion : Completion) : List Share :=
  completion.result.shares completion.request.entity

/-- The entities for which the end of the request brings samples. -/
def targets (completion : Completion) : List String :=
  completion.shares.filterMap Share.target?

/-- What the end of the request makes of the record under an identifier. -/
def reach (ranges : Ranges) (layout : SeriesLayout) (id : String) (found : Option EntityRecord)
    (completion : Completion) : Option EntityRecord :=
  completion.shares.foldl (Share.reach ranges completion.request.metric layout id) found

variable {completion : Completion} {ranges : Ranges} {layout : SeriesLayout} {id : String}
  {found : Option EntityRecord}

/-- An entity for which there are samples stands under the aggregate that was asked for. -/
theorem owned_of_mem_targets (h : id ∈ completion.targets) :
    ∃ kind, OwnedBy completion.request.entity id kind := by
  obtain ⟨share, hshare, htarget⟩ := List.mem_filterMap.mp h
  cases share with
  | skipped key => cases htarget
  | samples target kind values =>
      obtain rfl := Option.some.inj htarget
      exact ⟨kind, FetchResult.is_under_of_mem_shares hshare _ kind values rfl⟩

/-- The end of a request changes no record but those for which it brings samples. -/
theorem reach_of_not_mem_targets (h : id ∉ completion.targets) :
    completion.reach ranges layout id found = found :=
  Share.foldl_reach_of_not_mem h

end Completion

namespace Engine

/-- Handle the end of a request. -/
def complete (engine : Engine) (completion : Completion) : Engine :=
  engine.handleFetched completion.request completion.result

/-- Handle ends of requests in order. -/
def completeAll (engine : Engine) (completions : List Completion) : Engine :=
  completions.foldl complete engine

variable {engine : Engine} {completion : Completion} {completions : List Completion}

/-- The last end is handled after the others. -/
theorem complete_all_concat : engine.completeAll (completions ++ [completion]) =
    (engine.completeAll completions).complete completion := by
  rw [completeAll, List.foldl_concat, ← completeAll]

/-- While a request for the aggregate is outstanding, nothing is drawn. -/
theorem complete_of_busy
    (hidle : (engine.plan.settle completion.request completion.result.answered).idle
      completion.request.entity = false) :
    engine.complete completion = engine.store completion.request completion.result :=
  handle_fetched_of_busy hidle

/-- With the last outstanding request for the aggregate, what waits under it is drawn. -/
theorem complete_of_idle
    (hidle : (engine.plan.settle completion.request completion.result.answered).idle
      completion.request.entity) :
    engine.complete completion = (engine.store completion.request completion.result).flushWhere
      (·.belongsTo completion.request.entity) :=
  handle_fetched_of_idle hidle

/-- The end of a request reaches the record under an identifier as `Completion.reach` says. -/
theorem get?_complete (id : String) :
    (engine.complete completion).registry.get? id =
      completion.reach engine.settings.ranges engine.registry.layout id
        (engine.registry.get? id) := by
  rw [complete, registry_handle_fetched, Registry.get?_foldl_receive, Completion.reach]
  rfl

/-- The end of a request changes no record but those for which it brings samples. -/
theorem get?_complete_of_not_mem_targets {id : String} (h : id ∉ completion.targets) :
    (engine.complete completion).registry.get? id = engine.registry.get? id := by
  rw [get?_complete, Completion.reach_of_not_mem_targets h]

theorem settings_complete_all :
    (engine.completeAll completions).settings = engine.settings := by
  induction completions using List.reverseRecOn with
  | nil => rfl
  | append_singleton completions completion ih =>
      rw [complete_all_concat, complete, settings_handle_fetched, ih]

theorem layout_complete_all :
    (engine.completeAll completions).registry.layout = engine.registry.layout := by
  induction completions using List.reverseRecOn with
  | nil => rfl
  | append_singleton completions completion ih =>
      rw [complete_all_concat, complete, registry_handle_fetched, Registry.layout_foldl_receive, ih]

/-- Ends of requests reach the record under an identifier one after the other. -/
theorem get?_complete_all (completions : List Completion) (id : String) :
    (engine.completeAll completions).registry.get? id =
      completions.foldl (Completion.reach engine.settings.ranges engine.registry.layout id)
        (engine.registry.get? id) := by
  induction completions using List.reverseRecOn with
  | nil => rfl
  | append_singleton completions completion ih =>
      rw [complete_all_concat, get?_complete, settings_complete_all, layout_complete_all, ih,
        List.foldl_concat]

/-- Ends of requests do not change what is tracked. -/
theorem targets_complete_all :
    (engine.completeAll completions).plan.targets = engine.plan.targets := by
  induction completions using List.reverseRecOn with
  | nil => rfl
  | append_singleton completions completion ih =>
      rw [complete_all_concat, complete, plan_handle_fetched, ← ih]
      rfl

/-- Ends of requests do not change the slice by which a tail is asked for. -/
theorem tail_complete_all : (engine.completeAll completions).plan.tail = engine.plan.tail := by
  induction completions using List.reverseRecOn with
  | nil => rfl
  | append_singleton completions completion ih =>
      rw [complete_all_concat, complete, plan_handle_fetched, ← ih]
      rfl

/-- Those requests stay outstanding that did not end. -/
theorem mem_outstanding_complete_all {pair : String × Metric} :
    pair ∈ (engine.completeAll completions).plan.outstanding ↔
      pair ∈ engine.plan.outstanding ∧
        ∀ completion ∈ completions, pair ≠ completion.request.pair := by
  induction completions using List.reverseRecOn with
  | nil => simp [completeAll]
  | append_singleton completions completion ih =>
      rw [complete_all_concat, complete, plan_handle_fetched, FetchPlan.mem_outstanding_settle, ih,
        and_assoc, List.forall_mem_append, List.forall_mem_singleton]

/-- Those histories count as answered that did before, and those that were answered. -/
theorem mem_seeded_complete_all {pair : String × Metric} :
    pair ∈ (engine.completeAll completions).plan.seeded ↔
      pair ∈ engine.plan.seeded ∨ ∃ completion ∈ completions,
        completion.result.answered ∧ pair = completion.request.pair := by
  induction completions using List.reverseRecOn with
  | nil => simp [completeAll]
  | append_singleton completions completion ih =>
      rw [complete_all_concat, complete, plan_handle_fetched, FetchPlan.mem_seeded_settle, ih,
        or_assoc]
      simp only [List.mem_append, List.mem_singleton, or_and_right, exists_or, exists_eq_left]

/-! ## What waits and what is drawn -/

/-- Ends of requests that can be handled: each is that of another outstanding request, for a
configured aggregate and one of the metrics of its family. -/
structure Awaits (settings : Settings) (engine : Engine) (completions : List Completion) :
    Prop where
  entity : ∀ completion ∈ completions, completion.request.entity ∈ configured settings
  metric : ∀ completion ∈ completions, completion.request.metric ∈
    settings.layout.metricsFor (.ofAggregate completion.request.entity)
  outstanding : ∀ completion ∈ completions, completion.request.pair ∈ engine.plan.outstanding
  nodup : (completions.map (·.request.pair)).Nodup

/-- An entity waited before or is one for which an end of a request brings samples. -/
def Marked (engine : Engine) (completions : List Completion) (id : String) : Prop :=
  id ∈ engine.redraw.pending ∨ ∃ completion ∈ completions, id ∈ completion.targets

/-- An entity stands under an aggregate for which a request ended and none is outstanding. -/
def Closed (plan : FetchPlan) (completions : List Completion) (id : String) : Prop :=
  ∃ completion ∈ completions, plan.idle completion.request.entity ∧
    ∃ kind, OwnedBy completion.request.entity id kind

/-- Of the entities that waited or were brought, those under an aggregate without an outstanding
request have been drawn once, with the record that they have now, and the others wait. -/
structure Completed (completions : List Completion) (before after : Engine) : Prop where
  pending : ∀ id, id ∈ after.redraw.pending ↔
    before.Marked completions id ∧ ¬ Closed after.plan completions id
  drawn : ∃ drawn : List EntityRecord, drawn.Nodup ∧
    (∀ record, record ∈ drawn ↔ after.registry.get? record.id = some record ∧
      before.Marked completions record.id ∧ Closed after.plan completions record.id) ∧
    after.frames = before.frames ++ drawn.map (·.frame before.settings.palette)

variable {settings : Settings} {before : Engine}

/-- Ends of requests can be handled if those before the last one can. -/
theorem Awaits.init (h : engine.Awaits settings (completions ++ [completion])) :
    engine.Awaits settings completions where
  entity := fun other hother => h.entity other (List.mem_append_left _ hother)
  metric := fun other hother => h.metric other (List.mem_append_left _ hother)
  outstanding := fun other hother => h.outstanding other (List.mem_append_left _ hother)
  nodup := by
    have hnodup := h.nodup
    rw [List.map_append] at hnodup
    exact hnodup.of_append_left

/-- The last request is outstanding until it ends. -/
theorem Awaits.last (h : engine.Awaits settings (completions ++ [completion])) :
    completion.request.pair ∈ (engine.completeAll completions).plan.outstanding := by
  have hnodup := h.nodup
  rw [List.map_append, List.map_singleton, List.nodup_append] at hnodup
  rw [mem_outstanding_complete_all]
  refine ⟨h.outstanding completion List.mem_concat_self, ?_⟩
  intro other hother hpair
  exact hnodup.2.2 _ (List.mem_map_of_mem hother) _ (List.mem_singleton_self _) hpair.symm

/-- Ends of requests that can be handled keep a session sound. -/
theorem Sound.complete_all (h : engine.Sound settings)
    (hawaits : engine.Awaits settings completions) :
    (engine.completeAll completions).Sound settings := by
  induction completions using List.reverseRecOn with
  | nil => exact h
  | append_singleton completions completion ih =>
      rw [complete_all_concat]
      exact (ih hawaits.init).handle_fetched (hawaits.entity _ List.mem_concat_self) _

/-- One more end of a request marks the entities for which it brings samples. -/
theorem marked_concat (id : String) : before.Marked (completions ++ [completion]) id ↔
    before.Marked completions id ∨ id ∈ completion.targets := by
  simp only [Marked, List.mem_append, List.mem_singleton, or_and_right, exists_or, exists_eq_left,
    or_assoc]

/-- With the end of an outstanding request its aggregate is closed, if it was the last one. -/
theorem closed_concat {plan : FetchPlan} (h : completion.request.pair ∈ plan.outstanding)
    (answered : Bool) (id : String) :
    Closed (plan.settle completion.request answered) (completions ++ [completion]) id ↔
      Closed plan completions id ∨
        (plan.settle completion.request answered).idle completion.request.entity ∧
          ∃ kind, OwnedBy completion.request.entity id kind := by
  constructor
  · rintro ⟨other, hother, hidle, howned⟩
    by_cases hentity : other.request.entity = completion.request.entity
    · exact Or.inr ⟨hentity ▸ hidle, hentity ▸ howned⟩
    · rw [FetchPlan.idle_settle_of_ne hentity] at hidle
      have hne : other ≠ completion := fun heq => hentity (heq ▸ rfl)
      have hmem : other ∈ completions := by simpa [hne] using hother
      exact Or.inl ⟨other, hmem, hidle, howned⟩
  · rintro (⟨other, hother, hidle, howned⟩ | ⟨hidle, howned⟩)
    · have hentity : other.request.entity ≠ completion.request.entity := by
        intro hentity
        rw [hentity, FetchPlan.not_idle_of_outstanding h] at hidle
        cases hidle
      refine ⟨other, List.mem_append_left _ hother, ?_, howned⟩
      rwa [FetchPlan.idle_settle_of_ne hentity]
    · exact ⟨completion, List.mem_concat_self, hidle, howned⟩

/-- The records that are due under a configured aggregate are those of the entities that wait and
stand under it. -/
theorem Sound.mem_due_iff (h : engine.Sound settings) (hnames : Unambiguous (configured settings))
    {entity : String} (hentity : entity ∈ configured settings) {record : EntityRecord} :
    record ∈ engine.redraw.due engine.registry (·.belongsTo entity) ↔
      engine.registry.get? record.id = some record ∧ record.id ∈ engine.redraw.pending ∧
        ∃ kind, OwnedBy entity record.id kind := by
  rw [Redraw.mem_due, Registry.mem_records_iff h.orderly.nodup]
  refine and_congr_right fun hrecord => and_congr_right fun _ => ?_
  obtain ⟨aggregate, haggregate, howned⟩ := h.orderly.owned record.id record hrecord
  rw [howned.belongs_to_iff hnames haggregate hentity]
  constructor
  · rintro rfl
    exact ⟨_, howned⟩
  · rintro ⟨_, hother⟩
    exact (howned.unique hnames haggregate hentity hother).1

/-- After a flush under a configured aggregate the entities under it wait no more. -/
theorem Sound.mem_pending_flush_under (h : engine.Sound settings)
    (hnames : Unambiguous (configured settings)) {entity : String}
    (hentity : entity ∈ configured settings) {id : String} :
    id ∈ (engine.flushWhere (·.belongsTo entity)).redraw.pending ↔
      id ∈ engine.redraw.pending ∧ ¬ ∃ kind, OwnedBy entity id kind := by
  rw [mem_pending_flush_where]
  refine and_congr_right fun hid => ?_
  constructor
  · intro hdue howned
    obtain ⟨record, hrecord⟩ : ∃ record, engine.registry.get? id = some record := by
      rw [← Option.isSome_iff_exists, ← Registry.contains_eq_is_some]
      exact h.waiting id hid
    obtain rfl := Registry.id_of_get? hrecord
    exact hdue record ((h.mem_due_iff hnames hentity).mpr ⟨hrecord, hid, howned⟩) rfl
  · rintro howned record hrecord rfl
    exact howned ((h.mem_due_iff hnames hentity).mp hrecord).2.2

/-- A flush under a configured aggregate draws the entities that wait under it, once each. -/
theorem Sound.frames_flush_under (h : engine.Sound settings)
    (hnames : Unambiguous (configured settings)) {entity : String}
    (hentity : entity ∈ configured settings) :
    ∃ due : List EntityRecord, due.Nodup ∧
      (∀ record, record ∈ due ↔ engine.registry.get? record.id = some record ∧
        record.id ∈ engine.redraw.pending ∧ ∃ kind, OwnedBy entity record.id kind) ∧
      (engine.flushWhere (·.belongsTo entity)).frames =
        engine.frames ++ due.map (·.frame engine.settings.palette) := by
  refine ⟨engine.redraw.due engine.registry (·.belongsTo entity), ?_, ?_, rfl⟩
  · exact h.orderly.nodup.of_map.filter _
  · exact fun _ => h.mem_due_iff hnames hentity

/-- What waits once the end of an awaited request has been stored. -/
theorem Sound.mem_pending_store_iff (h : engine.Sound settings)
    (hnames : Unambiguous (configured settings))
    (hentity : completion.request.entity ∈ configured settings)
    (hmetric : completion.request.metric ∈
      settings.layout.metricsFor (.ofAggregate completion.request.entity)) {id : String} :
    id ∈ (engine.store completion.request completion.result).redraw.pending ↔
      id ∈ engine.redraw.pending ∨ id ∈ completion.targets := by
  rw [← h.layout_eq] at hmetric
  rw [Engine.store]
  dsimp only
  rw [h.orderly.touched_complete hnames hentity hmetric, Redraw.mem_pending_foldl_mark]
  rfl

/-! ## One more end of a request -/

/-- After other requests, one more ends for which a sound session waits. -/
structure Ending (settings : Settings) (completions : List Completion) (completion : Completion)
    (before middle : Engine) : Prop where
  completed : Completed completions before middle
  settings_eq : middle.settings = before.settings
  sound : middle.Sound settings
  names : Unambiguous (configured settings)
  others : ∀ other ∈ completions, other.request.entity ∈ configured settings
  entity : completion.request.entity ∈ configured settings
  metric : completion.request.metric ∈
    settings.layout.metricsFor (.ofAggregate completion.request.entity)
  outstanding : completion.request.pair ∈ middle.plan.outstanding

namespace Ending

variable {middle : Engine} {id : String} {kind : EntityKind}

/-- The aggregate is not closed while the request is outstanding. -/
theorem not_owned (h : Ending settings completions completion before middle)
    (hid : Closed middle.plan completions id) :
    ¬ ∃ kind, OwnedBy completion.request.entity id kind := by
  rintro ⟨kind, howned⟩
  obtain ⟨other, hother, hidle, _, hclosed⟩ := hid
  have hsame := (hclosed.unique h.names (h.others other hother) h.entity howned).1
  rw [hsame, FetchPlan.not_idle_of_outstanding h.outstanding] at hidle
  cases hidle

/-- The request brings no samples for entities under a closed aggregate. -/
theorem not_mem_targets (h : Ending settings completions completion before middle)
    (hid : Closed middle.plan completions id) : id ∉ completion.targets :=
  fun htarget => h.not_owned hid (Completion.owned_of_mem_targets htarget)

/-- The end of the request does not change records under a closed aggregate. -/
theorem get?_of_closed (h : Ending settings completions completion before middle)
    (hid : Closed middle.plan completions id) :
    (middle.complete completion).registry.get? id = middle.registry.get? id :=
  get?_complete_of_not_mem_targets (h.not_mem_targets hid)

/-- What waits once the end of the request has been stored. -/
theorem mem_pending_store (h : Ending settings completions completion before middle)
    (id : String) : id ∈ (middle.store completion.request completion.result).redraw.pending ↔
      id ∈ middle.redraw.pending ∨ id ∈ completion.targets :=
  h.sound.mem_pending_store_iff h.names h.entity h.metric

/-- Which aggregates are closed after the end of the request. -/
theorem closed_iff (h : Ending settings completions completion before middle) (id : String) :
    Closed (middle.complete completion).plan (completions ++ [completion]) id ↔
      Closed middle.plan completions id ∨
        (middle.plan.settle completion.request completion.result.answered).idle
          completion.request.entity ∧ ∃ kind, OwnedBy completion.request.entity id kind := by
  rw [complete, plan_handle_fetched]
  exact closed_concat h.outstanding completion.result.answered id

/-- If the aggregate still has an outstanding request, nothing is drawn. -/
theorem of_busy (h : Ending settings completions completion before middle)
    (hidle : (middle.plan.settle completion.request completion.result.answered).idle
      completion.request.entity = false) :
    Completed (completions ++ [completion]) before (middle.complete completion) := by
  have hclosed (id : String) :
      Closed (middle.complete completion).plan (completions ++ [completion]) id ↔
        Closed middle.plan completions id := by
    rw [h.closed_iff, hidle, or_iff_left]
    rintro ⟨hfalse, _⟩
    cases hfalse
  refine ⟨?_, ?_⟩
  · intro id
    rw [hclosed, marked_concat, complete_of_busy hidle, h.mem_pending_store,
      h.completed.pending]
    by_cases hid : Closed middle.plan completions id
    · simp [hid, h.not_mem_targets hid]
    · simp [hid]
  · obtain ⟨drawn, hnodup, hdrawn, hframes⟩ := h.completed.drawn
    refine ⟨drawn, hnodup, ?_, ?_⟩
    · intro record
      rw [hdrawn, hclosed, marked_concat]
      constructor
      · rintro ⟨hrecord, hmarked, hid⟩
        rw [h.get?_of_closed hid]
        exact ⟨hrecord, Or.inl hmarked, hid⟩
      · rintro ⟨hrecord, hmarked, hid⟩
        rw [h.get?_of_closed hid] at hrecord
        exact ⟨hrecord, hmarked.resolve_right (h.not_mem_targets hid), hid⟩
    · rw [complete_of_busy hidle]
      exact hframes

/-- With the last outstanding request for the aggregate, the entities under it wait no more. -/
theorem pending_of_idle (h : Ending settings completions completion before middle)
    (hidle : (middle.plan.settle completion.request completion.result.answered).idle
      completion.request.entity) (id : String) :
    id ∈ (middle.complete completion).redraw.pending ↔
      before.Marked (completions ++ [completion]) id ∧
        ¬ Closed (middle.complete completion).plan (completions ++ [completion]) id := by
  have hstored := h.sound.store h.entity completion.result
  rw [h.closed_iff, and_iff_right hidle, marked_concat, complete_of_idle hidle,
    hstored.mem_pending_flush_under h.names h.entity, h.mem_pending_store, h.completed.pending]
  by_cases hid : Closed middle.plan completions id
  · simp [hid, h.not_mem_targets hid]
  · simp [hid]

/-- With the last outstanding request for the aggregate, the entities under it that wait are drawn
after those that have been drawn. -/
theorem drawn_of_idle (h : Ending settings completions completion before middle)
    (hidle : (middle.plan.settle completion.request completion.result.answered).idle
      completion.request.entity) :
    ∃ drawn : List EntityRecord, drawn.Nodup ∧
      (∀ record, record ∈ drawn ↔
        (middle.complete completion).registry.get? record.id = some record ∧
          before.Marked (completions ++ [completion]) record.id ∧
          Closed (middle.complete completion).plan (completions ++ [completion]) record.id) ∧
      (middle.complete completion).frames =
        before.frames ++ drawn.map (·.frame before.settings.palette) := by
  have hstored := h.sound.store h.entity completion.result
  have hcomplete := complete_of_idle hidle
  obtain ⟨drawn, hnodup, hdrawn, hframes⟩ := h.completed.drawn
  obtain ⟨due, hdueNodup, hdue, hdueFrames⟩ := hstored.frames_flush_under h.names h.entity
  refine ⟨drawn ++ due, ?_, ?_, ?_⟩
  · -- What was drawn before stands under closed aggregates, and this one was not closed.
    refine List.nodup_append.mpr ⟨hnodup, hdueNodup, ?_⟩
    rintro record hrecord _ hmore rfl
    exact h.not_owned ((hdrawn record).mp hrecord).2.2 ((hdue record).mp hmore).2.2
  · intro record
    have hregistry : (middle.complete completion).registry.get? record.id =
        (middle.store completion.request completion.result).registry.get? record.id := by
      rw [hcomplete]
      rfl
    rw [List.mem_append, hdrawn, hdue, h.closed_iff, and_iff_right hidle, marked_concat,
      h.mem_pending_store, h.completed.pending, ← hregistry]
    -- Under a closed aggregate the record was drawn before and has not changed since.
    by_cases hid : Closed middle.plan completions record.id
    · simp only [h.get?_of_closed hid, hid, h.not_mem_targets hid, h.not_owned hid, and_true,
        and_false, or_false]
    · simp only [hid, and_false, not_false_eq_true, and_true, false_or]
  · rw [hcomplete, List.map_append, ← List.append_assoc, ← hframes, ← h.settings_eq]
    exact hdueFrames

end Ending

/-- Once awaited requests have ended, what is under an aggregate without an outstanding request has
been drawn, and the rest of what was brought waits. -/
theorem Completed.of_awaits (hsound : engine.Sound settings)
    (hnames : Unambiguous (configured settings)) (hawaits : engine.Awaits settings completions) :
    Completed completions engine (engine.completeAll completions) := by
  induction completions using List.reverseRecOn with
  | nil =>
      refine ⟨?_, [], List.nodup_nil, ?_, ?_⟩
      · simp [completeAll, Marked, Closed]
      · simp [Closed]
      · simp [completeAll]
  | append_singleton completions completion ih =>
      have hending : Ending settings completions completion engine
          (engine.completeAll completions) :=
        { completed := ih hawaits.init
          settings_eq := settings_complete_all
          sound := hsound.complete_all hawaits.init
          names := hnames
          others := hawaits.init.entity
          entity := hawaits.entity completion List.mem_concat_self
          metric := hawaits.metric completion List.mem_concat_self
          outstanding := hawaits.last }
      rw [complete_all_concat]
      cases hidle : ((engine.completeAll completions).plan.settle completion.request
          completion.result.answered).idle completion.request.entity with
      | false => exact hending.of_busy hidle
      | true => exact ⟨hending.pending_of_idle hidle, hending.drawn_of_idle hidle⟩

end Engine

end StatsBoard
