import StatsBoard.Proofs.Display
import StatsBoard.Proofs.History.Completion

/-!
# What is on display while a session polls

An entity waits to be drawn only while a request for its aggregate is outstanding, and every other
entity was last drawn as it is now (`Coherent`). The entities that wait under an aggregate are those
that were touched since it last had no outstanding request (`pending_iff_of_run`), so the last
request draws each of them once: `display_coherent`.
-/

namespace StatsBoard

namespace Engine

variable {engine : Engine} {wanted : EntityRecord → Bool} {settings : Settings}
  {completion : Completion}

/-- After a flush, an entity that waited and was asked for is on display as it is. -/
theorem last_frame_flush_where (wanted : EntityRecord → Bool) (h : engine.registry.ids.Nodup)
    {record : EntityRecord}
    (hrecord : engine.registry.get? record.id = some record)
    (hwaits : record.id ∈ engine.redraw.pending) (hwanted : wanted record) :
    lastFrame? (engine.flushWhere wanted).frames record.id =
      some (record.frame engine.settings.palette) := by
  rw [frames_flush_where]
  exact last_frame_of_drawn (nodup_due h)
    (Redraw.mem_due.mpr ⟨Registry.mem_of_get? hrecord, hwaits, hwanted⟩)

/-- The session is sound, entities wait only under aggregates with an outstanding request, and the
others were last drawn as they are now. -/
structure Coherent (settings : Settings) (engine : Engine) : Prop where
  sound : engine.Sound settings
  busy : ∀ id ∈ engine.redraw.pending, ∃ entity ∈ configured settings,
    engine.plan.idle entity = false ∧ ∃ kind, OwnedBy entity id kind
  shown : ∀ id record, engine.registry.get? id = some record → id ∉ engine.redraw.pending →
    lastFrame? engine.frames id = some (record.frame settings.palette)

/-- Once the configured aggregates are wired, all are on display. -/
theorem Coherent.wire_configured (settings : Settings) :
    (new settings).wireConfigured.Coherent settings where
  sound := .wire_configured settings
  busy id hid := absurd hid (pending_wire_configured settings id)
  shown := by
    intro id record hrecord _
    have hwired := just_wired_wire_all settings (configured settings)
    have hnodup : ((new settings).wireAll (configured settings)).registry.ids.Nodup := by
      rw [hwired.ids]
      exact nodup_erase_dups _
    change ((new settings).wireAll (configured settings)).registry.get? id = some record at hrecord
    obtain rfl := Registry.id_of_get? hrecord
    have hwaits : record.id ∈ ((new settings).wireAll (configured settings)).redraw.pending := by
      rw [hwired.pending, ← hwired.ids, ← Registry.contains_iff_mem_ids,
        Registry.contains_eq_is_some, hrecord, Option.isSome_some]
    have hlast := last_frame_flush_where (fun _ => true) hnodup hrecord hwaits rfl
    rwa [hwired.settings_eq] at hlast

/-- Requests that are made change nothing on display. -/
theorem Coherent.plan_fetches (h : engine.Coherent settings) :
    engine.planFetches.Coherent settings where
  sound := ⟨h.sound.settings_eq, h.sound.layout_eq, h.sound.orderly, h.sound.waiting⟩
  busy := by
    intro id hid
    obtain ⟨entity, hentity, hbusy, howned⟩ := h.busy id hid
    refine ⟨entity, hentity, ?_, howned⟩
    rw [Bool.eq_false_iff, ne_eq, FetchPlan.idle_iff] at hbusy ⊢
    exact fun hidle => hbusy fun pair hpair => hidle pair (List.mem_append_left _ hpair)
  shown := h.shown

/-- The end of a request is awaited: it is outstanding, for one of the metrics of a configured
aggregate. -/
structure Awaited (settings : Settings) (engine : Engine) (request : FetchRequest) : Prop where
  entity : request.entity ∈ configured settings
  metric : request.metric ∈ settings.layout.metricsFor (.ofAggregate request.entity)
  outstanding : request.pair ∈ engine.plan.outstanding

/-- What waits once the end of a request has been stored waits under an aggregate that had an
outstanding request. -/
theorem Coherent.busy_store (h : engine.Coherent settings)
    (hrequest : Awaited settings engine completion.request) (id : String)
    (hid : id ∈ (engine.store completion.request completion.result).redraw.pending) :
    ∃ entity ∈ configured settings,
      engine.plan.idle entity = false ∧ ∃ kind, OwnedBy entity id kind := by
  rcases mem_pending_store hid with hold | hnew
  · exact h.busy id hold
  · exact ⟨completion.request.entity, hrequest.entity,
      FetchPlan.not_idle_of_outstanding hrequest.outstanding, Completion.owned_of_mem_targets hnew⟩

/-- What does not wait once the end of a request has been stored was last drawn as it is now. -/
theorem Coherent.shown_store (h : engine.Coherent settings)
    (hnames : Unambiguous (configured settings))
    (hrequest : Awaited settings engine completion.request) (id : String) (record : EntityRecord)
    (hrecord : (engine.store completion.request completion.result).registry.get? id = some record)
    (hid : id ∉ (engine.store completion.request completion.result).redraw.pending) :
    lastFrame? engine.frames id = some (record.frame settings.palette) := by
  rw [h.sound.mem_pending_store_iff hnames hrequest.entity hrequest.metric, not_or] at hid
  have hsame : (engine.store completion.request completion.result).registry.get? id =
      engine.registry.get? id := by
    rw [registry_store, ← registry_handle_fetched]
    exact get?_complete_of_not_mem_targets hid.2
  exact h.shown id record (hsame ▸ hrecord) hid.1

/-- What does not wait once what waits under the aggregate has been drawn was last drawn as it is
now. -/
theorem Coherent.shown_flush_under (h : engine.Coherent settings)
    (hnames : Unambiguous (configured settings))
    (hrequest : Awaited settings engine completion.request) (id : String) (record : EntityRecord)
    (hrecord : (engine.store completion.request completion.result).registry.get? id = some record)
    (hid : id ∉ ((engine.store completion.request completion.result).flushWhere
      (·.belongsTo completion.request.entity)).redraw.pending) :
    lastFrame? ((engine.store completion.request completion.result).flushWhere
      (·.belongsTo completion.request.entity)).frames id =
        some (record.frame settings.palette) := by
  have hstored := h.sound.store hrequest.entity completion.result
  obtain rfl := Registry.id_of_get? hrecord
  by_cases hwaits :
      record.id ∈ (engine.store completion.request completion.result).redraw.pending
  · -- What waited and does not wait any more stands under the aggregate, and was drawn.
    have howned : ∃ kind, OwnedBy completion.request.entity record.id kind := by
      by_contra hnot
      exact hid ((hstored.mem_pending_flush_under hnames hrequest.entity).mpr ⟨hwaits, hnot⟩)
    have hdue := (hstored.mem_due_iff hnames hrequest.entity).mpr ⟨hrecord, hwaits, howned⟩
    have hlast := last_frame_flush_where (·.belongsTo completion.request.entity)
      hstored.orderly.nodup hrecord hwaits (Redraw.mem_due.mp hdue).2.2
    rwa [hstored.settings_eq] at hlast
  · rw [frames_flush_where, last_frame_of_not_drawn]
    · exact h.shown_store hnames hrequest record.id record hrecord hwaits
    · intro other hother hsame
      exact hwaits (hsame ▸ (Redraw.mem_due.mp hother).2.1)

/-- The end of a request leaves nothing out of date on display but what waits. -/
theorem Coherent.complete (h : engine.Coherent settings)
    (hnames : Unambiguous (configured settings))
    (hrequest : Awaited settings engine completion.request) :
    (engine.complete completion).Coherent settings := by
  have hstored := h.sound.store hrequest.entity completion.result
  cases hidle : (engine.plan.settle completion.request completion.result.answered).idle
      completion.request.entity with
  | false =>
      rw [complete_of_busy hidle]
      refine ⟨hstored, ?_, h.shown_store hnames hrequest⟩
      intro id hid
      obtain ⟨entity, hentity, hbusy, howned⟩ := h.busy_store hrequest id hid
      refine ⟨entity, hentity, ?_, howned⟩
      by_cases hsame : entity = completion.request.entity
      · exact hsame ▸ hidle
      · exact (FetchPlan.idle_settle_of_ne hsame).trans hbusy
  | true =>
      rw [complete_of_idle hidle]
      refine ⟨hstored.flush_where _, ?_, h.shown_flush_under hnames hrequest⟩
      intro id hid
      rw [hstored.mem_pending_flush_under hnames hrequest.entity] at hid
      obtain ⟨entity, hentity, hbusy, howned⟩ := h.busy_store hrequest id hid.1
      have hne : entity ≠ completion.request.entity := by
        rintro rfl
        exact hid.2 howned
      exact ⟨entity, hentity, (FetchPlan.idle_settle_of_ne hne).trans hbusy, howned⟩

/-- With the end of a request those entities wait for which it brings samples, and those under its
aggregate stop waiting if no other request for it is outstanding. -/
theorem Sound.mem_pending_complete (h : engine.Sound settings)
    (hnames : Unambiguous (configured settings))
    (hrequest : Awaited settings engine completion.request) {entity id : String}
    {kind : EntityKind} (hentity : entity ∈ configured settings)
    (howned : OwnedBy entity id kind) :
    id ∈ (engine.complete completion).redraw.pending ↔
      (id ∈ engine.redraw.pending ∨ id ∈ completion.targets) ∧
        ¬ (entity = completion.request.entity ∧
          (engine.plan.settle completion.request completion.result.answered).idle entity) := by
  cases hidle : (engine.plan.settle completion.request completion.result.answered).idle
      completion.request.entity with
  | false =>
      have hnot : ¬ (entity = completion.request.entity ∧
          (engine.plan.settle completion.request completion.result.answered).idle entity) := by
        rintro ⟨rfl, htrue⟩
        simp [hidle] at htrue
      rw [complete_of_busy hidle, h.mem_pending_store_iff hnames hrequest.entity hrequest.metric,
        and_iff_left hnot]
  | true =>
      have hunder : (∃ kind, OwnedBy completion.request.entity id kind) ↔
          entity = completion.request.entity := by
        constructor
        · rintro ⟨_, hother⟩
          exact (howned.unique hnames hentity hrequest.entity hother).1
        · rintro rfl
          exact ⟨kind, howned⟩
      have hclosed : entity = completion.request.entity ↔ entity = completion.request.entity ∧
          (engine.plan.settle completion.request completion.result.answered).idle entity :=
        ⟨fun hsame => ⟨hsame, hsame ▸ hidle⟩, fun hboth => hboth.1⟩
      rw [complete_of_idle hidle,
        (h.store hrequest.entity completion.result).mem_pending_flush_under hnames hrequest.entity,
        h.mem_pending_store_iff hnames hrequest.entity hrequest.metric, hunder, ← hclosed]

end Engine

/-! ## Runs -/

namespace PollState

/-- No request for an aggregate is outstanding. -/
def Idle (state : PollState) (entity : String) : Prop :=
  ∀ request ∈ state.outstanding, request.entity ≠ entity

/-- `Idle` compares finitely many texts. -/
instance (state : PollState) (entity : String) : Decidable (state.Idle entity) :=
  inferInstanceAs (Decidable (∀ request ∈ state.outstanding, request.entity ≠ entity))

/-- The entities that something touches: those whose series the end of a request reaches. -/
def touchedBy (state : PollState) : PollCall → List String
  | .plan => []
  | .complete request result =>
    (state.engine.registry.complete state.engine.settings.ranges request result).touched

/-- The entities that were touched since an aggregate last had no outstanding request, given those
that were touched until now and what happens from now on. -/
def touchedSince (entity : String) (earlier : List String) (state : PollState) :
    List PollCall → List String
  | [] => earlier
  | call :: calls =>
    let touched := (if state.Idle entity then [] else earlier) ++ state.touchedBy call
    match state.step? call with
    | some next => next.touchedSince entity touched calls
    | none => touched

variable {settings : Settings} {calls : List PollCall} {state : PollState} {entity : String}

/-- What happens last adds what it touches, and only that if the aggregate had no outstanding
request before. -/
theorem touched_since_concat {first : PollState} {earlier : List String} (call : PollCall)
    (h : first.run? calls = some state) :
    first.touchedSince entity earlier (calls ++ [call]) =
      (if state.Idle entity then [] else first.touchedSince entity earlier calls) ++
        state.touchedBy call := by
  induction calls generalizing first earlier with
  | nil =>
      obtain rfl : first = state := by simpa [run?] using h
      simp only [List.nil_append, touchedSince]
      cases first.step? call <;> rfl
  | cons next calls ih =>
      obtain ⟨middle, hstep, hrest⟩ : ∃ middle, first.step? next = some middle ∧
          middle.run? calls = some state := by
        simpa [run?, bind, Option.bind_eq_some_iff] using h
      simp only [List.cons_append, touchedSince, hstep]
      exact ih hrest

/-- The plan knows which aggregates have an outstanding request. -/
theorem idle_iff (hmode : settings.mode = .pull) (h : (start settings).run? calls = some state) :
    state.engine.plan.idle entity ↔ state.Idle entity := by
  rw [FetchPlan.idle_iff, (Fetching.Agrees.of_run (fetching_of_run hmode h)).outstanding,
    List.forall_mem_map]
  rfl

/-- The end of each outstanding request is awaited. -/
theorem awaited_of_run (hmode : settings.mode = .pull)
    (h : (start settings).run? calls = some state) {request : FetchRequest}
    (hrequest : request ∈ state.outstanding) :
    Engine.Awaited settings state.engine request where
  entity := (configured_of_outstanding hmode h hrequest).1
  metric := (configured_of_outstanding hmode h hrequest).2
  outstanding := by
    rw [(Fetching.Agrees.of_run (fetching_of_run hmode h)).outstanding]
    exact List.mem_map_of_mem hrequest

/-- Every run keeps the display coherent. -/
theorem coherent_of_run (hmode : settings.mode = .pull)
    (hnames : Unambiguous (Engine.configured settings))
    (h : (start settings).run? calls = some state) : state.engine.Coherent settings := by
  induction h using run_induction with
  | start => exact .wire_configured settings
  | plan calls before hrun ih => exact ih.plan_fetches
  | complete calls before request result hrun hrequest ih =>
      exact @Engine.Coherent.complete _ _ ⟨request, result⟩ ih hnames
        (awaited_of_run hmode hrun hrequest)

/-- The end of an outstanding request touches the entities for which it brings samples. -/
theorem touched_by_complete (hmode : settings.mode = .pull)
    (hnames : Unambiguous (Engine.configured settings))
    (h : (start settings).run? calls = some state) {request : FetchRequest}
    (hrequest : request ∈ state.outstanding) (result : FetchResult) :
    state.touchedBy (.complete request result) = (Completion.mk request result).targets := by
  have hsound := sound_of_run hmode h
  obtain ⟨hentity, hmetric⟩ := configured_of_outstanding hmode h hrequest
  exact hsound.orderly.touched_complete hnames hentity (hsound.layout_eq ▸ hmetric) result

/-- Under a configured aggregate those entities wait that were touched since it last had no
outstanding request, while it has one. -/
theorem pending_iff_of_run (hmode : settings.mode = .pull)
    (hnames : Unambiguous (Engine.configured settings))
    (h : (start settings).run? calls = some state) (hentity : entity ∈ Engine.configured settings)
    {id : String} {kind : EntityKind} (howned : OwnedBy entity id kind) :
    id ∈ state.engine.redraw.pending ↔
      ¬ state.Idle entity ∧ id ∈ (start settings).touchedSince entity [] calls := by
  induction h using run_induction with
  | start =>
      have hnone : id ∉ (start settings).engine.redraw.pending :=
        Engine.pending_wire_configured settings id
      simp [touchedSince, hnone]
  | plan calls before hrun ih =>
      rw [touched_since_concat .plan hrun]
      change id ∈ before.engine.redraw.pending ↔ _
      rw [ih, touchedBy, List.append_nil]
      by_cases hidle : before.Idle entity
      · simp [hidle]
      · have hafter : ¬ Idle ⟨before.engine.planFetches,
            before.outstanding ++ before.engine.requests⟩ entity :=
          fun h => hidle fun request hrequest => h request (List.mem_append_left _ hrequest)
        simp [hidle, hafter]
  | complete calls before request result hrun hrequest ih =>
      have hrun' := run_complete hrun hrequest result
      have hafter := @Engine.Sound.mem_pending_complete _ _ ⟨request, result⟩
        (sound_of_run hmode hrun) hnames (awaited_of_run hmode hrun hrequest) _ _ _ hentity howned
      rw [← Engine.plan_handle_fetched, idle_iff hmode hrun', ih] at hafter
      rw [touched_since_concat _ hrun, touched_by_complete hmode hnames hrun hrequest]
      refine hafter.trans ?_
      by_cases hsame : entity = request.entity
      · have hbusy : ¬ before.Idle entity := fun hidle => hidle request hrequest hsame.symm
        rw [if_neg hbusy, List.mem_append, and_iff_right hbusy, and_iff_right hsame, and_comm]
      · -- The end of a request for another aggregate says nothing of this one.
        have hother : id ∉ (Completion.mk request result).targets := by
          intro hid
          obtain ⟨_, hunder⟩ := Completion.owned_of_mem_targets hid
          exact hsame (howned.unique hnames hentity
            (configured_of_outstanding hmode hrun hrequest).1 hunder).1
        have hidle : Idle ⟨before.engine.handleFetched request result,
            before.outstanding.erase request⟩ entity ↔ before.Idle entity := by
          rw [← idle_iff hmode hrun', ← idle_iff hmode hrun, Engine.plan_handle_fetched,
            FetchPlan.idle_settle_of_ne hsame]
        by_cases hbusy : before.Idle entity <;> simp [hidle, hbusy, hsame, hother]

/-- When the end of a request has been stored, those entities wait under its aggregate that were
touched since the aggregate last had no outstanding request. -/
theorem mem_pending_store_of_run (hmode : settings.mode = .pull)
    (hnames : Unambiguous (Engine.configured settings))
    (h : (start settings).run? calls = some state) {request : FetchRequest}
    (hrequest : request ∈ state.outstanding) (result : FetchResult) {id : String}
    {kind : EntityKind} (howned : OwnedBy request.entity id kind) :
    id ∈ (state.engine.store request result).redraw.pending ↔
      id ∈ (start settings).touchedSince request.entity []
        (calls ++ [.complete request result]) := by
  have hawaited := awaited_of_run hmode h hrequest
  have hbusy : ¬ state.Idle request.entity := fun hidle => hidle request hrequest rfl
  have hstored := @Engine.Sound.mem_pending_store_iff _ ⟨request, result⟩ _ (sound_of_run hmode h)
    hnames hawaited.entity hawaited.metric id
  rw [hstored, pending_iff_of_run hmode hnames h hawaited.entity howned, and_iff_right hbusy,
    touched_since_concat _ h, if_neg hbusy, touched_by_complete hmode hnames h hrequest,
    List.mem_append]

/-- The last outstanding request for an aggregate draws what belongs to the aggregate and was
touched since it last had no outstanding request. -/
theorem due_of_run (hmode : settings.mode = .pull)
    (hnames : Unambiguous (Engine.configured settings))
    (h : (start settings).run? calls = some state) {request : FetchRequest}
    (hrequest : request ∈ state.outstanding) (result : FetchResult) :
    (state.engine.store request result).redraw.due (state.engine.store request result).registry
        (·.belongsTo request.entity) =
      (state.engine.handleFetched request result).registry.records.filter fun record =>
        record.belongsTo request.entity &&
          ((start settings).touchedSince request.entity []
            (calls ++ [.complete request result])).contains record.id := by
  have hentity := (configured_of_outstanding hmode h hrequest).1
  have horderly := ((sound_of_run hmode h).store hentity result).orderly
  rw [Engine.registry_handle_fetched, ← Engine.registry_store, Redraw.due]
  refine List.filter_congr fun record hrecord => ?_
  rw [Bool.and_comm]
  cases hbelongs : record.belongsTo request.entity with
  | false => rfl
  | true =>
      obtain ⟨aggregate, haggregate, howned⟩ :=
        horderly.owned record.id record (Registry.get?_of_mem horderly.nodup hrecord)
      obtain rfl := (howned.belongs_to_iff hnames haggregate hentity).mp hbelongs
      rw [Bool.true_and, Bool.true_and, Bool.eq_iff_iff, List.contains_iff_mem,
        List.contains_iff_mem]
      exact mem_pending_store_of_run hmode hnames h hrequest result howned

/-- At every moment of a session that polls, if no configured aggregate is named like a child of
another: what belongs to an aggregate without an outstanding request does not wait to be drawn, and
was last drawn as it is now. The end of a request draws nothing while another request for the
aggregate is outstanding; otherwise it draws what belongs to the aggregate and was touched since
the aggregate last had no outstanding request, once each and in the order of the registry. -/
theorem display_coherent (hmode : settings.mode = .pull)
    (hnames : Unambiguous (Engine.configured settings))
    (h : (start settings).run? calls = some state) :
    (∀ entity ∈ Engine.configured settings, state.Idle entity →
      ∀ record ∈ state.engine.registry.records, record.belongsTo entity →
        record.id ∉ state.engine.redraw.pending ∧
        lastFrame? state.engine.frames record.id = some (record.frame settings.palette)) ∧
    ∀ request result after, state.step? (.complete request result) = some after →
      ∃ drawn : List EntityRecord, (drawn.map (·.id)).Nodup ∧
        after.engine.frames = state.engine.frames ++ drawn.map (·.frame settings.palette) ∧
        drawn = if after.Idle request.entity then
            after.engine.registry.records.filter fun record =>
              record.belongsTo request.entity &&
                ((start settings).touchedSince request.entity []
                  (calls ++ [.complete request result])).contains record.id
          else [] := by
  have hcoherent := coherent_of_run hmode hnames h
  refine ⟨?display, ?draws⟩
  case display =>
    intro entity hentity hidle record hrecord hbelongs
    have hfound := Registry.get?_of_mem hcoherent.sound.orderly.nodup hrecord
    obtain ⟨aggregate, haggregate, howned⟩ := hcoherent.sound.orderly.owned _ record hfound
    obtain rfl := (howned.belongs_to_iff hnames haggregate hentity).mp hbelongs
    have hwaits : record.id ∉ state.engine.redraw.pending := by
      rw [pending_iff_of_run hmode hnames h hentity howned]
      exact fun hbusy => hbusy.1 hidle
    exact ⟨hwaits, hcoherent.shown record.id record hfound hwaits⟩
  case draws =>
    intro request result after hstep
    have hafter := run_concat.mpr ⟨state, h, hstep⟩
    obtain ⟨hrequest, rfl⟩ : request ∈ state.outstanding ∧ _ = after := by
      simpa [step?] using hstep
    have hidle := @idle_iff _ _ _ request.entity hmode hafter
    rw [Engine.plan_handle_fetched] at hidle
    cases hlast : (state.engine.plan.settle request result.answered).idle request.entity with
    | false =>
        have hbusy : ¬ Idle ⟨state.engine.handleFetched request result,
            state.outstanding.erase request⟩ request.entity := by simp [← hidle, hlast]
        refine ⟨[], List.nodup_nil, ?_, (if_neg hbusy).symm⟩
        rw [Engine.handle_fetched_of_busy hlast, List.map_nil, List.append_nil]
        rfl
    | true =>
        have hstored := hcoherent.sound.store (configured_of_outstanding hmode h hrequest).1 result
        refine ⟨(state.engine.store request result).redraw.due
            (state.engine.store request result).registry (·.belongsTo request.entity),
          Engine.nodup_due hstored.orderly.nodup, ?_, ?_⟩
        · rw [Engine.handle_fetched_of_idle hlast, Engine.frames_flush_where, hstored.settings_eq]
          rfl
        · rw [if_pos (hidle.mp hlast)]
          exact due_of_run hmode hnames h hrequest result

/-- `web` and the processes of `db` are polled. -/
def webAndProcessesOfDb : Settings :=
  { mode := .pull, watchers := ["web"], watchersWithPids := ["db"] }

/-- Requests for both are made, and one for each is answered. -/
def oneAnswerForEach : List PollCall :=
  [.plan,
    .complete ⟨"db", .cpu, none⟩ (.ok (.keyed [("7", .array [.number (.integer 42)])])),
    .complete ⟨"web", .cpu, none⟩ (.ok (.samples [.number (.integer 3)]))]

/-- The last request for `db` fails and draws the process that was discovered before, while `web`
goes on waiting. -/
theorem display_coherent_failure :
    ∃ (state after : PollState) (drawn : List EntityRecord),
      (start webAndProcessesOfDb).run? oneAnswerForEach = some state ∧
      state.step? (.complete ⟨"db", .mem, none⟩ (.error .timeout)) = some after ∧
      after.Idle "db" ∧ after.engine.redraw.pending = ["web"] ∧
      after.engine.frames =
        state.engine.frames ++ drawn.map (·.frame webAndProcessesOfDb.palette) ∧
      drawn.map (·.id) = ["db-7"] ∧
      ∀ record ∈ after.engine.registry.records, record.belongsTo "db" →
        lastFrame? after.engine.frames record.id =
          some (record.frame webAndProcessesOfDb.palette) := by
  have hrun : (start webAndProcessesOfDb).run? oneAnswerForEach = some _ := rfl
  have hnames : Unambiguous (Engine.configured webAndProcessesOfDb) := by decide
  obtain ⟨drawn, -, hframes, hdrawn⟩ :=
    (display_coherent rfl hnames hrun).2 ⟨"db", .mem, none⟩ (.error .timeout) _ rfl
  have hlast : (start webAndProcessesOfDb).run? (oneAnswerForEach ++
      [.complete ⟨"db", .mem, none⟩ (.error .timeout)]) = some _ := rfl
  refine ⟨_, _, drawn, hrun, rfl, by decide, rfl, hframes, ?_, ?_⟩
  · rw [hdrawn]
    decide
  · intro record hrecord hbelongs
    exact ((display_coherent rfl hnames hlast).1 "db" (by decide) (by decide) record hrecord
      hbelongs).2

end PollState

end StatsBoard
