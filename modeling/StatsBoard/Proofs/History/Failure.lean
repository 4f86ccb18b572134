import StatsBoard.Proofs.History.Drawing

/-!
# Requests that fail

A request that fails stores nothing. What it leaves is described by one equation
(`handle_fetched_error`): its history is no longer outstanding, the failure is reported, and what
waited under an aggregate without further requests is drawn. So rounds in which every request fails
leave the plan as it was, and the next round asks for the same again: `failures_change_nothing`.
-/

namespace StatsBoard

namespace Engine

variable {engine : Engine} {request : FetchRequest} {error : TransportError}

/-- A session after the failure of a request and the drawing of records that waited. -/
def afterFailure (engine : Engine) (request : FetchRequest) (error : TransportError)
    (drawn : List EntityRecord) : Engine :=
  { engine with
    plan := { engine.plan with
      outstanding := engine.plan.outstanding.filter (· != request.pair) }
    redraw := ⟨engine.redraw.pending.filter fun id => !(drawn.any (·.id == id))⟩
    frames := engine.frames ++ drawn.map (·.frame engine.settings.palette)
    log := engine.log ++ .fetchFailed request.entity request.metric error.message ::
      if drawn.isEmpty then [] else [.flushed drawn.length] }

/-- The failure of a request stores nothing. -/
theorem store_error :
    engine.store request (.error error) = engine.afterFailure request error [] := by
  simp [store, afterFailure, Registry.complete, FetchPlan.settle, FetchResult.answered]

/-- What waits under an aggregate is drawn after the failure as it would have been before. -/
theorem flush_where_after_failure (wanted : EntityRecord → Bool) :
    (engine.afterFailure request error []).flushWhere wanted =
      engine.afterFailure request error (engine.redraw.due engine.registry wanted) := by
  simp [flushWhere, Engine.drawn, Redraw.flushWhere, afterFailure, Redraw.due]

/-- The failure of a request draws what waits under its aggregate, if no other request for the
aggregate is outstanding, and changes nothing else but the outstanding histories and the log. -/
theorem handle_fetched_error :
    engine.handleFetched request (.error error) =
      engine.afterFailure request error
        (if (engine.plan.settle request false).idle request.entity then
          engine.redraw.due engine.registry (·.belongsTo request.entity)
        else []) := by
  cases hidle : (engine.plan.settle request false).idle request.entity with
  | true =>
      rw [handle_fetched_of_idle hidle, store_error, flush_where_after_failure, if_pos rfl]
  | false => rw [handle_fetched_of_busy hidle, store_error, if_neg Bool.false_ne_true]

end Engine

/-! ## Runs -/

namespace PollCall

/-- A request ends with a failure. -/
def failure (failed : FetchRequest × TransportError) : PollCall :=
  .complete failed.1 (.error failed.2)

/-- The requests that are due are made and then fail, in some order. -/
def failedRound (failures : List (FetchRequest × TransportError)) : List PollCall :=
  .plan :: failures.map failure

end PollCall

namespace PollState

variable {settings : Settings} {calls : List PollCall} {state : PollState}

/-- An outstanding request may fail at any time. -/
theorem step_failure {request : FetchRequest} (error : TransportError)
    (hrequest : request ∈ state.outstanding) :
    state.step? (.failure (request, error)) =
      some ⟨state.engine.handleFetched request (.error error),
        state.outstanding.erase request⟩ := by
  simp [step?, PollCall.failure, hrequest]

/-- What happens first happens before the rest. -/
theorem run_cons {first middle : PollState} {call : PollCall} (h : first.step? call = some middle) :
    first.run? (call :: calls) = middle.run? calls := by
  simp [run?, h]

/-- What happens in two parts happens one after the other. -/
theorem run_append {first middle : PollState} {more : List PollCall}
    (h : first.run? calls = some middle) : first.run? (calls ++ more) = middle.run? more := by
  rw [run?] at h
  simp [run?, List.foldlM_append, h]

/-- If all outstanding requests fail, in whatever order, then none is outstanding, and of the rest
of the plan and of the registry nothing changes. -/
theorem run_failures {failures : List (FetchRequest × TransportError)}
    (hfailures : (failures.map (·.1)).Perm state.outstanding) :
    ∃ after, state.run? (failures.map PollCall.failure) = some after ∧ after.outstanding = [] ∧
      after.engine.registry = state.engine.registry ∧
      after.engine.plan = { state.engine.plan with
        outstanding := state.engine.plan.outstanding.filter fun pair =>
          !(failures.map (·.1.pair)).contains pair } := by
  induction failures generalizing state with
  | nil =>
      refine ⟨state, rfl, hfailures.nil_eq.symm, rfl, ?_⟩
      simp
  | cons failed failures ih =>
      have hrequest : failed.1 ∈ state.outstanding := hfailures.subset List.mem_cons_self
      -- The others are the requests that are outstanding after the first failure.
      have hrest : (failures.map (·.1)).Perm (state.outstanding.erase failed.1) :=
        (hfailures.trans (List.perm_cons_erase hrequest)).cons_inv
      obtain ⟨after, hrun, hnone, hregistry, hplan⟩ := @ih ⟨_, _⟩ hrest
      refine ⟨after, (run_cons (step_failure failed.2 hrequest)).trans hrun, hnone, ?_, ?_⟩
      · rw [hregistry, Engine.handle_fetched_error, Engine.afterFailure]
      · rw [hplan, Engine.handle_fetched_error, Engine.afterFailure]
        dsimp only
        rw [List.filter_filter]
        congr 1
        refine List.filter_congr fun pair _ => ?_
        rw [List.map_cons, List.contains_cons, Bool.not_or, Bool.and_comm]
        rfl

/-- A round in which all requests fail leaves the plan and the registry as they were. -/
theorem run_failed_round {failures : List (FetchRequest × TransportError)}
    (hnone : state.outstanding = []) (hplan : state.engine.plan.outstanding = [])
    (hfailures : (failures.map (·.1)).Perm state.engine.requests) :
    ∃ after, state.run? (PollCall.failedRound failures) = some after ∧ after.outstanding = [] ∧
      after.engine.registry = state.engine.registry ∧ after.engine.plan = state.engine.plan := by
  have hmade : (failures.map (·.1)).Perm (state.outstanding ++ state.engine.requests) := by
    rwa [hnone, List.nil_append]
  obtain ⟨after, hrun, hended, hregistry, hafter⟩ :=
    @run_failures ⟨state.engine.planFetches, state.outstanding ++ state.engine.requests⟩ _ hmade
  refine ⟨after, (run_cons rfl).trans hrun, hended, hregistry, ?_⟩
  -- Every history that the round made outstanding is one of those that failed.
  have hpairs : (failures.map (·.1.pair)).Perm (state.engine.requests.map (·.pair)) := by
    simpa [Function.comp_def] using hfailures.map FetchRequest.pair
  have hcleared : (state.engine.plan.advance.outstanding.filter fun pair =>
      !(failures.map (·.1.pair)).contains pair) = state.engine.plan.outstanding := by
    rw [FetchPlan.advance, hplan, List.nil_append, List.filter_eq_nil_iff]
    intro pair hpair
    simpa using hpairs.symm.subset hpair
  rw [hafter, Engine.planFetches, hcleared]
  rfl

/-- Any number of rounds in which all requests fail leaves the plan and the registry as they
were. -/
theorem run_failed_rounds {rounds : List (List (FetchRequest × TransportError))}
    (hnone : state.outstanding = []) (hplan : state.engine.plan.outstanding = [])
    (hrounds : ∀ failures ∈ rounds, (failures.map (·.1)).Perm state.engine.requests) :
    ∃ after, state.run? (rounds.flatMap PollCall.failedRound) = some after ∧
      after.outstanding = [] ∧ after.engine.registry = state.engine.registry ∧
      after.engine.plan = state.engine.plan := by
  induction rounds generalizing state with
  | nil => exact ⟨state, rfl, hnone, rfl, rfl⟩
  | cons failures rounds ih =>
      rw [List.forall_mem_cons] at hrounds
      obtain ⟨middle, hround, hmiddle, hregistry, hsame⟩ :=
        run_failed_round hnone hplan hrounds.1
      have hrequests : middle.engine.requests = state.engine.requests := by
        rw [Engine.requests, hsame, ← Engine.requests]
      obtain ⟨after, hrest, hafter, hlater, hlast⟩ :=
        ih hmiddle (hsame ▸ hplan) (hrequests ▸ hrounds.2)
      rw [List.flatMap_cons, run_append hround]
      exact ⟨after, hrest, hafter, hlater.trans hregistry, hlast.trans hsame⟩

/-- At every moment of a session that polls: if an outstanding request fails, then its history is
outstanding no more, what waits under its aggregate is drawn if no other request for the aggregate
is outstanding, and nothing else changes but what was reported. So while no request is outstanding,
any number of rounds in which all requests fail, in any order, leaves the registry and the plan as
they were, and the next round asks for the same. -/
theorem failures_change_nothing (hmode : settings.mode = .pull)
    (h : (start settings).run? calls = some state) :
    (∀ request ∈ state.outstanding, ∀ error, ∃ after drawn,
      state.step? (.complete request (.error error)) = some after ∧
      after.outstanding = state.outstanding.erase request ∧
      after.engine = { state.engine with
        plan := { state.engine.plan with
          outstanding := state.engine.plan.outstanding.filter (· != request.pair) }
        redraw := ⟨state.engine.redraw.pending.filter fun id => !(drawn.any (·.id == id))⟩
        frames := state.engine.frames ++ drawn.map (·.frame state.engine.settings.palette)
        log := state.engine.log ++ .fetchFailed request.entity request.metric error.message ::
          if drawn.isEmpty then [] else [.flushed drawn.length] } ∧
      drawn = if after.Idle request.entity then
          state.engine.registry.records.filter fun record =>
            state.engine.redraw.pending.contains record.id && record.belongsTo request.entity
        else []) ∧
    (state.outstanding = [] → ∀ rounds : List (List (FetchRequest × TransportError)),
      (∀ failures ∈ rounds, (failures.map (·.1)).Perm state.engine.requests) →
      ∃ after, state.run? (rounds.flatMap PollCall.failedRound) = some after ∧
        after.outstanding = [] ∧ after.engine.registry = state.engine.registry ∧
        after.engine.plan = state.engine.plan ∧
        after.engine.requests = state.engine.requests) := by
  refine ⟨?failure, ?rounds⟩
  case failure =>
    intro request hrequest error
    have hstep := step_failure error hrequest
    have hidle := @idle_iff _ _ _ request.entity hmode (run_concat.mpr ⟨state, h, hstep⟩)
    rw [Engine.plan_handle_fetched] at hidle
    refine ⟨_, _, hstep, rfl, Engine.handle_fetched_error, ?_⟩
    simp only [← hidle]
    rfl
  case rounds =>
    intro hnone rounds hrounds
    have hplan : state.engine.plan.outstanding = [] := by
      rw [(Fetching.Agrees.of_run (fetching_of_run hmode h)).outstanding, hnone, List.map_nil]
    obtain ⟨after, hrun, hended, hregistry, hsame⟩ := run_failed_rounds hnone hplan hrounds
    refine ⟨after, hrun, hended, hregistry, hsame, ?_⟩
    rw [Engine.requests, hsame, ← Engine.requests]

/-- Both aggregates have been answered once, and the other requests have failed. -/
def answersAndFailures : List PollCall :=
  oneAnswerForEach ++
    [.failure (⟨"db", .mem, none⟩, .timeout), .failure (⟨"web", .mem, none⟩, .closed)]

/-- The requests that are due then fail, the last one first. -/
def lastFailsFirst : List (FetchRequest × TransportError) :=
  [(⟨"db", .mem, none⟩, .timeout), (⟨"db", .cpu, some { }⟩, .status 500),
    (⟨"web", .mem, none⟩, .timeout), (⟨"web", .cpu, some { }⟩, .closed)]

/-- The outstanding request for `db` fails and draws the process that an answer brought. Once all
requests have ended, two rounds in which all requests fail leave the plan as it was: of each
aggregate one history is asked for by its tail, and the other one whole. -/
theorem failures_change_nothing_after_answers :
    ∃ (busy idle after : PollState) (drawn : List EntityRecord),
      (start webAndProcessesOfDb).run? oneAnswerForEach = some busy ∧
      (∃ failed, busy.step? (.complete ⟨"db", .mem, none⟩ (.error .timeout)) = some failed ∧
        failed.engine.registry = busy.engine.registry ∧
        failed.engine.plan.outstanding = [("web", .mem)] ∧
        failed.engine.frames =
          busy.engine.frames ++ drawn.map (·.frame busy.engine.settings.palette) ∧
        drawn.map (·.id) = ["db-7"]) ∧
      (start webAndProcessesOfDb).run? answersAndFailures = some idle ∧ idle.outstanding = [] ∧
      idle.run? ([lastFailsFirst, lastFailsFirst].flatMap PollCall.failedRound) = some after ∧
      after.engine.plan = idle.engine.plan ∧
      after.engine.requests.map (·.range) = [some { }, none, some { }, none] := by
  have hbusy : (start webAndProcessesOfDb).run? oneAnswerForEach = some _ := rfl
  have hidle : (start webAndProcessesOfDb).run? answersAndFailures = some _ := rfl
  obtain ⟨failed, drawn, hstep, -, hfailed, hdrawn⟩ :=
    (failures_change_nothing rfl hbusy).1 ⟨"db", .mem, none⟩ (by decide) .timeout
  obtain ⟨after, hafter, -, -, hplan, hrequests⟩ :=
    (failures_change_nothing rfl hidle).2 (by decide) [lastFailsFirst, lastFailsFirst] (by decide)
  refine ⟨_, _, after, drawn, hbusy, ⟨failed, hstep, ?_, ?_, ?_, ?_⟩, hidle, by decide, hafter,
    hplan, ?_⟩
  · rw [hfailed]
  · rw [hfailed]
    rfl
  · rw [hfailed]
  · obtain rfl := Option.some.inj hstep
    rw [hdrawn]
    decide
  · rw [hrequests]
    decide

end PollState

end StatsBoard
