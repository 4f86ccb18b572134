import StatsBoard.History.Plan
import StatsBoard.Proofs.FirstOccurrences

/-!
# Runs of a fetch plan

A plan is told what to track, asked for the requests that are due, and told how requests ended.
Those who make the requests remember which have not ended yet, and report the end of each of them
once. Over every such run, `one_request_per_history` says that the plan and its user agree on what
is outstanding and that no tracked history is forgotten or asked for twice, and
`whole_history_answered_once` says that the first answer of a history is the whole of it and every
later one its tail.
-/

namespace StatsBoard

/-- What a plan is told or asked. -/
inductive PlanCall where
  | track (entity : String) (metrics : List Metric)
  | plan
  | complete (request : FetchRequest) (result : FetchResult)

namespace PlanCall

/-- The aggregate that a call asks to track, with its metrics. -/
def target? : PlanCall → Option (String × List Metric)
  | track entity metrics => some (entity, metrics)
  | plan | complete .. => none

/-- The aggregates that calls track, in the order of their first calls and with the metrics of
those. -/
def targets (calls : List PlanCall) : List (String × List Metric) :=
  firstOfEach (calls.filterMap target?)

/-- The histories that calls track, in order; one occurs again where a call repeats a metric. -/
def histories (calls : List PlanCall) : List (String × Metric) :=
  (targets calls).flatMap fun (entity, metrics) => metrics.map (entity, ·)

/-- The request for a history to which a call reports an answer. -/
def answered? (pair : String × Metric) : PlanCall → Option FetchRequest
  | complete request (.ok _) => if pair = request.pair then some request else none
  | track .. | plan | complete _ (.error _) => none

/-- The requests for a history that were answered, in the order of the answers. -/
def answers (pair : String × Metric) (calls : List PlanCall) : List FetchRequest :=
  calls.filterMap (answered? pair)

end PlanCall

/-- A plan with the requests that were made and have not ended. -/
structure Fetching where
  plan : FetchPlan
  outstanding : List FetchRequest := []

namespace Fetching

/-- Before the first call. -/
def start (tail : TailRange) : Fetching := { plan := .empty tail }

/-- One call; the end of a request may be reported only while the request is outstanding. -/
def step? (state : Fetching) : PlanCall → Option Fetching
  | .track entity metrics => some { state with plan := state.plan.track entity metrics }
  | .plan => some ⟨state.plan.advance, state.outstanding ++ state.plan.requests⟩
  | .complete request result =>
    if request ∈ state.outstanding then
      some ⟨state.plan.settle request result.answered, state.outstanding.erase request⟩
    else none

/-- Calls in order. -/
def run? (state : Fetching) (calls : List PlanCall) : Option Fetching :=
  calls.foldlM step? state

end Fetching

/-! ## What a plan asks for -/

namespace FetchPlan

variable {plan : FetchPlan}

/-- A request asks for the history for which it was made. -/
@[simp] theorem pair_request_for (pair : String × Metric) : (plan.requestFor pair).pair = pair :=
  rfl

/-- Of histories in order, those without an outstanding request are asked for once each. -/
theorem requests_due_from (outstanding pairs : List (String × Metric)) :
    (plan.dueFrom outstanding pairs).filterMap Due.request? =
      ((pairs.filter (· ∉ outstanding)).eraseDups).map plan.requestFor := by
  induction pairs generalizing outstanding with
  | nil => rfl
  | cons pair pairs ih =>
      by_cases hpair : pair ∈ outstanding
      · rw [dueFrom, if_pos (by simpa using hpair), List.filterMap_cons_none (by rfl), ih,
          List.filter_cons_of_neg (by simpa using hpair)]
      · -- A history that is asked for counts as outstanding for the rest of the list.
        have hrest : pairs.filter (· ∉ outstanding ++ [pair]) =
            (pairs.filter (· ∉ outstanding)).filter fun other => !other == pair := by
          rw [List.filter_filter]
          apply List.filter_congr
          intro other _
          by_cases hother : other = pair <;> simp [hother]
        rw [dueFrom, if_neg (by simpa using hpair), List.filterMap_cons_some (by rfl), ih, hrest,
          List.filter_cons_of_pos (by simpa using hpair), List.eraseDups_cons, List.map_cons]

/-- The tracked histories without an outstanding request are due, once each and in order. -/
theorem requests_eq :
    plan.requests = ((plan.pairs.filter (· ∉ plan.outstanding)).eraseDups).map plan.requestFor :=
  requests_due_from plan.outstanding plan.pairs

/-- The histories for which requests are due. -/
theorem pairs_of_requests :
    plan.requests.map (·.pair) = (plan.pairs.filter (· ∉ plan.outstanding)).eraseDups := by
  simp [requests_eq, Function.comp_def]

/-- A request that is due asks for what the plan asks for now. -/
theorem request_for_of_mem {request : FetchRequest} (h : request ∈ plan.requests) :
    request = plan.requestFor request.pair := by
  rw [requests_eq] at h
  obtain ⟨pair, _, rfl⟩ := List.mem_map.mp h
  rfl

/-- A history of a tracked aggregate belongs to one that is tracked. -/
theorem tracks_of_mem_pairs {pair : String × Metric} (h : pair ∈ plan.pairs) :
    plan.tracks pair.1 := by
  obtain ⟨⟨entity, metrics⟩, htarget, hpair⟩ := List.mem_flatMap.mp h
  obtain ⟨metric, _, rfl⟩ := List.mem_map.mp hpair
  exact List.any_eq_true.mpr ⟨_, htarget, by simp⟩

/-- Histories of tracked aggregates are none of those that start afresh with a new aggregate. -/
theorem filter_of_tracked {pairs : List (String × Metric)} {entity : String}
    (metrics : List Metric) (hpairs : ∀ pair ∈ pairs, plan.tracks pair.1)
    (hnew : plan.tracks entity = false) :
    (pairs.filter fun pair => !(pair.1 == entity && metrics.contains pair.2)) = pairs := by
  rw [List.filter_eq_self]
  intro pair hpair
  have hne : pair.1 ≠ entity := by
    rintro rfl
    simp [hpairs pair hpair] at hnew
  simp [hne]

/-- Tracking does not change what is outstanding, as those are tracked histories. -/
theorem outstanding_track {entity : String} {metrics : List Metric}
    (h : ∀ pair ∈ plan.outstanding, pair ∈ plan.pairs) :
    (plan.track entity metrics).outstanding = plan.outstanding := by
  unfold track
  split
  next => rfl
  next hnew =>
    exact filter_of_tracked metrics (fun pair hpair => tracks_of_mem_pairs (h pair hpair))
      (by simpa using hnew)

/-- Tracking forgets no answer, as answers belong to tracked aggregates. -/
theorem seeded_track {entity : String} {metrics : List Metric}
    (h : ∀ pair ∈ plan.seeded, plan.tracks pair.1) :
    (plan.track entity metrics).seeded = plan.seeded := by
  unfold track
  split
  next => rfl
  next hnew => exact filter_of_tracked metrics h (by simpa using hnew)

/-- Tracking adds an aggregate at the end, unless it is tracked. -/
theorem targets_track {entity : String} {metrics : List Metric} :
    (plan.track entity metrics).targets =
      if plan.tracks entity then plan.targets else plan.targets ++ [(entity, metrics)] := by
  unfold track
  split <;> rfl

/-- Tracking does not change the slice by which a tail is asked for. -/
theorem tail_track {entity : String} {metrics : List Metric} :
    (plan.track entity metrics).tail = plan.tail := by
  unfold track
  split <;> rfl

/-- Whatever is tracked stays tracked. -/
theorem tracks_track {entity other : String} {metrics : List Metric} (h : plan.tracks other) :
    (plan.track entity metrics).tracks other := by
  rw [tracks, targets_track]
  split
  · exact h
  · rw [List.any_append, Bool.or_eq_true]
    exact Or.inl h

/-- A tracked history stays tracked. -/
theorem mem_pairs_track {entity : String} {metrics : List Metric} {pair : String × Metric}
    (h : pair ∈ plan.pairs) : pair ∈ (plan.track entity metrics).pairs := by
  rw [pairs, targets_track]
  split
  · exact h
  · rw [List.flatMap_append]
    exact List.mem_append_left _ h

variable {request : FetchRequest} {answered : Bool} {entity : String} {pair : String × Metric}

/-- After the end of a request the history counts as answered if it did before or if the request
was answered. -/
theorem mem_seeded_settle :
    pair ∈ (plan.settle request answered).seeded ↔
      pair ∈ plan.seeded ∨ answered ∧ pair = request.pair := by
  by_cases hknown : request.pair ∈ plan.seeded
  · have hkept : (plan.settle request answered).seeded = plan.seeded := by
      simp [settle, hknown]
    rw [hkept, or_iff_left_of_imp]
    rintro ⟨_, rfl⟩
    exact hknown
  · cases answered <;> simp [settle, hknown]

/-- The end of a request does not change what is asked for other histories. -/
theorem request_for_settle_of_ne (h : pair ≠ request.pair) :
    (plan.settle request answered).requestFor pair = plan.requestFor pair := by
  have hseeded : pair ∈ (plan.settle request answered).seeded ↔ pair ∈ plan.seeded := by
    simp [mem_seeded_settle, h]
  simp only [requestFor, List.contains_eq_mem, hseeded]
  rfl

/-- No request for an aggregate is outstanding exactly if no outstanding history is its own. -/
theorem idle_iff : plan.idle entity ↔ ∀ pair ∈ plan.outstanding, pair.1 ≠ entity := by
  simp [idle]

/-- After the end of a request it is outstanding no more. -/
theorem mem_outstanding_settle :
    pair ∈ (plan.settle request answered).outstanding ↔
      pair ∈ plan.outstanding ∧ pair ≠ request.pair := by
  simp [settle]

/-- The end of a request says nothing of other aggregates. -/
theorem idle_settle_of_ne (h : entity ≠ request.entity) :
    (plan.settle request answered).idle entity = plan.idle entity := by
  rw [Bool.eq_iff_iff, idle_iff, idle_iff]
  refine forall_congr' fun pair => ?_
  rw [mem_outstanding_settle]
  constructor
  · rintro hpair hmem rfl
    exact hpair ⟨hmem, fun hrequest => h (congrArg Prod.fst hrequest)⟩ rfl
  · exact fun hpair hmem => hpair hmem.1

/-- While a request is outstanding, its aggregate has one. -/
theorem not_idle_of_outstanding (h : request.pair ∈ plan.outstanding) :
    plan.idle request.entity = false := by
  rw [Bool.eq_false_iff]
  exact fun hidle => idle_iff.mp hidle _ h rfl

end FetchPlan

/-! ## Calls one at a time -/

namespace PlanCall

variable {calls : List PlanCall}

/-- A call adds an aggregate at the end if it tracks one that no earlier call tracks. -/
theorem targets_concat (call : PlanCall) :
    targets (calls ++ [call]) =
      match call.target? with
      | none => targets calls
      | some target =>
        if (targets calls).any (·.1 == target.1) then targets calls
        else targets calls ++ [target] := by
  rw [targets, List.filterMap_append]
  cases htarget : call.target? with
  | none => simp [htarget, targets]
  | some target => simp [htarget, targets, first_of_each_concat, any_first_of_each]

/-- A call adds a request at the end if it reports an answer. -/
theorem answers_concat (pair : String × Metric) (call : PlanCall) :
    answers pair (calls ++ [call]) = answers pair calls ++ (call.answered? pair).toList := by
  rw [answers, List.filterMap_append]
  cases hanswer : call.answered? pair <;> simp [hanswer, answers]

end PlanCall

namespace Fetching

/-- The last call of a run is made in the state that the others reach. -/
theorem run_concat {first last : Fetching} {calls : List PlanCall} {call : PlanCall} :
    first.run? (calls ++ [call]) = some last ↔
      ∃ middle, first.run? calls = some middle ∧ middle.step? call = some last := by
  simp [run?, List.foldlM_append, bind, Option.bind_eq_some_iff]

/-- Only a request that is outstanding can end. -/
theorem step_complete_iff {request : FetchRequest} {result : FetchResult}
    {state after : Fetching} :
    state.step? (.complete request result) = some after ↔ request ∈ state.outstanding ∧
      ⟨state.plan.settle request result.answered, state.outstanding.erase request⟩ = after := by
  rw [step?, Option.ite_none_right_eq_some, Option.some.injEq]

/-- What holds before the first call, and after each call if it held before, holds of every run. -/
@[elab_as_elim]
theorem run_induction {first : Fetching}
    {motive : (calls : List PlanCall) → (state : Fetching) → first.run? calls = some state → Prop}
    (start : motive [] first rfl)
    (track : ∀ calls state entity metrics (h : first.run? calls = some state),
      motive calls state h → motive (calls ++ [.track entity metrics])
        { state with plan := state.plan.track entity metrics } (run_concat.mpr ⟨state, h, rfl⟩))
    (plan : ∀ calls state (h : first.run? calls = some state), motive calls state h →
      motive (calls ++ [.plan]) ⟨state.plan.advance, state.outstanding ++ state.plan.requests⟩
        (run_concat.mpr ⟨state, h, rfl⟩))
    (complete : ∀ calls state request result (h : first.run? calls = some state)
      (hrequest : request ∈ state.outstanding), motive calls state h →
      motive (calls ++ [.complete request result])
        ⟨state.plan.settle request result.answered, state.outstanding.erase request⟩
        (run_concat.mpr ⟨state, h, step_complete_iff.mpr ⟨hrequest, rfl⟩⟩))
    {calls : List PlanCall} {state : Fetching} (h : first.run? calls = some state) :
    motive calls state h := by
  induction calls using List.reverseRecOn generalizing state with
  | nil =>
      obtain rfl : first = state := Option.some.inj h
      exact start
  | append_singleton calls call ih =>
      obtain ⟨before, hrun, hstep⟩ := run_concat.mp h
      cases call with
      | track entity metrics =>
          obtain rfl := Option.some.inj hstep
          exact track calls before entity metrics hrun (ih hrun)
      | plan =>
          obtain rfl := Option.some.inj hstep
          exact plan calls before hrun (ih hrun)
      | complete request result =>
          obtain ⟨hrequest, rfl⟩ := step_complete_iff.mp hstep
          exact complete calls before request result hrun hrequest (ih hrun)

/-- The plan tracks what the calls ask to track, and has the same requests outstanding as its
user, one for a history at most and each for a tracked history. -/
structure Agrees (calls : List PlanCall) (state : Fetching) : Prop where
  targets : state.plan.targets = PlanCall.targets calls
  outstanding : state.plan.outstanding = state.outstanding.map (·.pair)
  nodup : state.plan.outstanding.Nodup
  tracked : ∀ pair ∈ state.plan.outstanding, pair ∈ state.plan.pairs

variable {tail : TailRange} {calls : List PlanCall} {state : Fetching}

/-- Tracking adds what the calls ask to track, and leaves the outstanding requests alone. -/
theorem Agrees.track (h : Agrees calls state) (entity : String) (metrics : List Metric) :
    Agrees (calls ++ [.track entity metrics])
      { state with plan := state.plan.track entity metrics } where
  targets := by
    rw [FetchPlan.targets_track, PlanCall.targets_concat, FetchPlan.tracks, h.targets]
    rfl
  outstanding := (FetchPlan.outstanding_track h.tracked).trans h.outstanding
  nodup := (FetchPlan.outstanding_track h.tracked).symm ▸ h.nodup
  tracked := by
    intro pair hpair
    rw [FetchPlan.outstanding_track h.tracked] at hpair
    exact FetchPlan.mem_pairs_track (h.tracked pair hpair)

/-- The requests that are due become outstanding; none of them is for a history that has one. -/
theorem Agrees.plan (h : Agrees calls state) :
    Agrees (calls ++ [.plan]) ⟨state.plan.advance, state.outstanding ++ state.plan.requests⟩ where
  targets := by
    rw [PlanCall.targets_concat]
    exact h.targets
  outstanding := by
    rw [List.map_append, ← h.outstanding]
    rfl
  nodup := by
    rw [FetchPlan.advance, FetchPlan.pairs_of_requests, List.nodup_append]
    refine ⟨h.nodup, nodup_erase_dups _, ?_⟩
    rintro pair hpair _ hother rfl
    simp [List.mem_eraseDups, hpair] at hother
  tracked := by
    intro pair hpair
    rcases List.mem_append.mp hpair with hpair | hpair
    · exact h.tracked pair hpair
    · rw [FetchPlan.pairs_of_requests, List.mem_eraseDups] at hpair
      exact (List.mem_filter.mp hpair).1

/-- The end of a request leaves the others outstanding. -/
theorem Agrees.complete (h : Agrees calls state) {request : FetchRequest} (result : FetchResult)
    (hrequest : request ∈ state.outstanding) :
    Agrees (calls ++ [.complete request result])
      ⟨state.plan.settle request result.answered, state.outstanding.erase request⟩ where
  targets := by
    rw [PlanCall.targets_concat]
    exact h.targets
  outstanding := by
    have hnodup : (state.outstanding.map (·.pair)).Nodup := h.outstanding ▸ h.nodup
    -- No other outstanding request is for the same history, so the history ends with its request.
    rw [FetchPlan.settle, h.outstanding, hnodup.of_map.erase_eq_filter, List.filter_map]
    refine congrArg _ (List.filter_congr fun other hother => ?_)
    rw [Function.comp_apply, Bool.eq_iff_iff, bne_iff_ne, bne_iff_ne, ne_eq, ne_eq, not_iff_not]
    exact ⟨List.inj_on_of_nodup_map hnodup hother hrequest, congrArg _⟩
  nodup := h.nodup.filter _
  tracked := fun pair hpair => h.tracked pair (List.mem_filter.mp hpair).1

/-- Every run keeps the plan and its user in agreement. -/
theorem Agrees.of_run (h : (start tail).run? calls = some state) : Agrees calls state := by
  induction h using run_induction with
  | start => exact ⟨rfl, rfl, List.nodup_nil, by simp [Fetching.start, FetchPlan.empty]⟩
  | track calls before entity metrics hrun ih => exact ih.track entity metrics
  | plan calls before hrun ih => exact ih.plan
  | complete calls before request result hrun hrequest ih => exact ih.complete result hrequest

/-- At every moment of a run the outstanding requests are for different histories, the plan knows
their number and which aggregates have one, and the requests that are due are for exactly the
tracked histories that have none, once each and in the order of tracking. -/
theorem one_request_per_history (h : (start tail).run? calls = some state) :
    (state.outstanding.map (·.pair)).Nodup ∧
    state.plan.inFlight = state.outstanding.length ∧
    (∀ entity, state.plan.idle entity ↔ ∀ request ∈ state.outstanding, request.entity ≠ entity) ∧
    state.plan.requests.map (·.pair) =
      ((PlanCall.histories calls).filter (· ∉ state.outstanding.map (·.pair))).eraseDups := by
  have hagrees := Agrees.of_run h
  refine ⟨hagrees.outstanding ▸ hagrees.nodup, ?_, ?_, ?_⟩
  · rw [FetchPlan.inFlight, hagrees.outstanding, List.length_map]
  · intro entity
    rw [FetchPlan.idle, hagrees.outstanding]
    simp [FetchRequest.pair]
  · rw [FetchPlan.pairs_of_requests, FetchPlan.pairs, hagrees.targets, hagrees.outstanding]
    rfl

/-- An aggregate is tracked twice. Of its histories one is answered whole and by its tail after a
failure, and the other is not answered. -/
def retry : List PlanCall :=
  [.track "web" [.cpu, .mem, .cpu], .plan,
    .complete ⟨"web", .cpu, none⟩ (.error .timeout), .track "web" [.age], .plan,
    .complete ⟨"web", .cpu, none⟩ (.ok (.samples [])), .plan,
    .complete ⟨"web", .cpu, some { }⟩ (.ok (.samples []))]

/-- The history that was answered last is due, and the one that was not answered is outstanding. -/
theorem one_request_per_history_retry :
    ∃ state, (start { }).run? retry = some state ∧
      state.plan.requests.map (·.pair) = [("web", .cpu)] ∧
      (state.outstanding.map (·.pair)).Nodup ∧
      state.plan.inFlight = state.outstanding.length ∧
      (∀ entity, state.plan.idle entity ↔
        ∀ request ∈ state.outstanding, request.entity ≠ entity) ∧
      state.plan.requests.map (·.pair) =
        ((PlanCall.histories retry).filter (· ∉ state.outstanding.map (·.pair))).eraseDups := by
  have hrun : (start { }).run? retry = some _ := rfl
  exact ⟨_, hrun, by decide, one_request_per_history hrun⟩

/-- The plan knows which histories have been answered, each outstanding request asks for what the
plan would ask for now, and each answer is of the whole history if it was the first. -/
structure Remembers (tail : TailRange) (calls : List PlanCall) (state : Fetching) : Prop where
  tail_eq : state.plan.tail = tail
  seeded : ∀ pair, pair ∈ state.plan.seeded ↔ PlanCall.answers pair calls ≠ []
  tracked : ∀ pair ∈ state.plan.seeded, state.plan.tracks pair.1
  current : ∀ request ∈ state.outstanding, request = state.plan.requestFor request.pair
  answered : ∀ pair i request, (PlanCall.answers pair calls)[i]? = some request →
    request.range = if i = 0 then none else some tail

/-- The slice for which a history is asked, in terms of the answers so far. -/
theorem Remembers.range_of_request (h : Remembers tail calls state) (pair : String × Metric) :
    (state.plan.requestFor pair).range =
      if PlanCall.answers pair calls = [] then none else some tail := by
  simp [FetchPlan.requestFor, h.seeded, h.tail_eq]

/-- A call that reports no answer, and after which the plan asks for the same slices, changes
nothing of what is remembered. -/
theorem Remembers.of_silent {call : PlanCall} {after : Fetching} (h : Remembers tail calls state)
    (hsilent : ∀ pair, call.answered? pair = none) (htail : after.plan.tail = state.plan.tail)
    (hseeded : after.plan.seeded = state.plan.seeded)
    (htracks : ∀ entity, state.plan.tracks entity → after.plan.tracks entity)
    (hrequests : ∀ request ∈ after.outstanding,
      request ∈ state.outstanding ∨ request ∈ state.plan.requests) :
    Remembers tail (calls ++ [call]) after := by
  have hanswers (pair) : PlanCall.answers pair (calls ++ [call]) = PlanCall.answers pair calls := by
    simp [PlanCall.answers_concat, hsilent]
  refine ⟨htail.trans h.tail_eq, ?_, ?_, ?_, ?_⟩
  · intro pair
    rw [hseeded, hanswers, h.seeded]
  · intro pair hpair
    exact htracks _ (h.tracked pair (hseeded ▸ hpair))
  · intro request hrequest
    have hcurrent : request = state.plan.requestFor request.pair := by
      rcases hrequests request hrequest with hold | hnew
      · exact h.current request hold
      · exact FetchPlan.request_for_of_mem hnew
    rw [FetchPlan.requestFor, hseeded, htail]
    exact hcurrent
  · intro pair i request hrequest
    exact h.answered pair i request (hanswers pair ▸ hrequest)

/-- An answer is of the whole history if none was known, and of its tail otherwise. -/
theorem Remembers.answer (h : Remembers tail calls state) (hagrees : Agrees calls state)
    {request : FetchRequest} (response : StatsResponse) (hrequest : request ∈ state.outstanding) :
    Remembers tail (calls ++ [.complete request (.ok response)])
      ⟨state.plan.settle request true, state.outstanding.erase request⟩ := by
  have hnodup : (state.outstanding.map (·.pair)).Nodup := hagrees.outstanding ▸ hagrees.nodup
  have hanswers (pair) : PlanCall.answers pair (calls ++ [.complete request (.ok response)]) =
      PlanCall.answers pair calls ++ if pair = request.pair then [request] else [] := by
    rw [PlanCall.answers_concat, PlanCall.answered?]
    split <;> rfl
  refine ⟨h.tail_eq, ?seeded, ?tracked, ?current, ?answered⟩
  case seeded =>
    intro pair
    rw [FetchPlan.mem_seeded_settle, h.seeded, hanswers]
    by_cases hpair : pair = request.pair <;> simp [hpair]
  case tracked =>
    intro pair hpair
    rcases FetchPlan.mem_seeded_settle.mp hpair with hold | ⟨_, rfl⟩
    · exact h.tracked pair hold
    · apply FetchPlan.tracks_of_mem_pairs
      apply hagrees.tracked
      rw [hagrees.outstanding]
      exact List.mem_map_of_mem hrequest
  case current =>
    -- A request that stays outstanding is for another history, whose slice does not change.
    intro other hother
    obtain ⟨hne, hother⟩ := hnodup.of_map.mem_erase_iff.mp hother
    have hpair : other.pair ≠ request.pair := fun hpair =>
      hne (List.inj_on_of_nodup_map hnodup hother hrequest hpair)
    rw [FetchPlan.request_for_settle_of_ne hpair]
    exact h.current other hother
  case answered =>
    intro pair i answer hanswer
    rw [hanswers, List.getElem?_append] at hanswer
    split at hanswer
    next => exact h.answered pair i answer hanswer
    next hlast =>
      split at hanswer
      next hpair =>
        obtain ⟨hi, rfl⟩ : i - (PlanCall.answers pair calls).length = 0 ∧ request = answer := by
          simpa [List.getElem?_singleton] using hanswer
        -- The answer at the end is the first one exactly if there was none before.
        have hfirst : PlanCall.answers pair calls = [] ↔ i = 0 := by
          rw [← List.length_eq_zero_iff]
          omega
        rw [h.current request hrequest, h.range_of_request, ← hpair]
        simp only [hfirst]
      next => simp at hanswer

/-- Every run keeps the plan's memory of what was answered. -/
theorem Remembers.of_run (h : (start tail).run? calls = some state) :
    Remembers tail calls state := by
  induction h using run_induction with
  | start =>
      exact ⟨rfl, by simp [Fetching.start, FetchPlan.empty, PlanCall.answers],
        by simp [Fetching.start, FetchPlan.empty], by simp [Fetching.start],
        by simp [PlanCall.answers]⟩
  | track calls before entity metrics hrun ih =>
      exact ih.of_silent (fun _ => rfl) FetchPlan.tail_track (FetchPlan.seeded_track ih.tracked)
        (fun _ => FetchPlan.tracks_track) (fun _ => Or.inl)
  | plan calls before hrun ih =>
      exact ih.of_silent (fun _ => rfl) rfl rfl (fun _ => id) (fun _ => List.mem_append.mp)
  | complete calls before request result hrun hrequest ih =>
      cases result with
      | ok response => exact ih.answer (Agrees.of_run hrun) response hrequest
      | error error =>
          exact ih.of_silent (fun _ => rfl) rfl rfl (fun _ => id)
            (fun _ hother => Or.inl (List.mem_of_mem_erase hother))

/-- At every moment of a run a history is asked for whole exactly if no answer for it has been
reported, and otherwise by the configured tail; so of the requests for a history that were answered
the first one, and no other, is for the whole of it. -/
theorem whole_history_answered_once (h : (start tail).run? calls = some state) :
    (∀ request ∈ state.plan.requests, request.range =
      if PlanCall.answers request.pair calls = [] then none else some tail) ∧
    ∀ pair i request, (PlanCall.answers pair calls)[i]? = some request →
      request.range = if i = 0 then none else some tail := by
  have hremembers := Remembers.of_run h
  refine ⟨?_, hremembers.answered⟩
  intro request hrequest
  rw [FetchPlan.request_for_of_mem hrequest]
  exact hremembers.range_of_request request.pair

/-- The first answer after the failure is of the whole history, and the next one of its tail. -/
theorem whole_history_answered_once_retry :
    ∃ state, (start ⟨-3, -1⟩).run? retry = some state ∧
      (PlanCall.answers ("web", .cpu) retry).map (·.range) = [none, some ⟨-3, -1⟩] ∧
      (∀ request ∈ state.plan.requests, request.range =
        if PlanCall.answers request.pair retry = [] then none else some ⟨-3, -1⟩) ∧
      ∀ pair i request, (PlanCall.answers pair retry)[i]? = some request →
        request.range = if i = 0 then none else some ⟨-3, -1⟩ := by
  have hrun : (start ⟨-3, -1⟩).run? retry = some _ := rfl
  exact ⟨_, hrun, by decide, whole_history_answered_once hrun⟩

end Fetching

end StatsBoard
