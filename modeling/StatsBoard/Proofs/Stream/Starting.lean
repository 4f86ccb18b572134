import StatsBoard.Proofs.Stream.Drawing
import StatsBoard.Session

/-!
# How a session that listens starts

The server is asked for samples once, with all configured aggregates wired and drawn by then. The
answer only matters to what is reported (`request_follows_wiring`): whatever was reported before an
event is handled, the event does the same (`preceded_by_handle_event`).
-/

namespace StatsBoard

/-! ## What was reported before -/

namespace Engine

variable {engine : Engine} {log : List LogEvent}

/-- A session with more reported before what it reported itself. -/
def precededBy (engine : Engine) (log : List LogEvent) : Engine :=
  { engine with log := log ++ engine.log }

theorem preceded_by_report (events : List LogEvent) :
    (engine.precededBy log).report events = (engine.report events).precededBy log := by
  simp [report, precededBy]

theorem preceded_by_drawn (flushed : Flushed) :
    (engine.precededBy log).drawn flushed = (engine.drawn flushed).precededBy log := by
  simp [drawn, precededBy]

theorem preceded_by_flush :
    (engine.precededBy log).flush = engine.flush.precededBy log :=
  preceded_by_drawn _

theorem preceded_by_flush_entity (id : String) :
    (engine.precededBy log).flushEntity id = (engine.flushEntity id).precededBy log :=
  preceded_by_drawn _

/-- What was reported before does not matter to wiring an entity. -/
theorem preceded_by_wire (id : String) (kind : EntityKind) :
    (engine.precededBy log).wire id kind = (engine.wire id kind).precededBy log := by
  have hsame : (engine.precededBy log).isWired id = engine.isWired id := rfl
  have hsettings : (engine.precededBy log).settings = engine.settings := rfl
  have henlist : (engine.precededBy log).enlist id kind =
      (engine.enlist id kind).precededBy log := by simp [enlist, precededBy]
  rw [wire, wire, hsame, hsettings, henlist]
  cases engine.isWired id with
  | true => rfl
  | false =>
      cases engine.settings.mode with
      | push => simp [subscribe, precededBy]
      | pull => cases kind <;> rfl

/-- What was reported before does not matter to wiring announced children. -/
theorem preceded_by_wire_children (population : Discovery) :
    (engine.precededBy log).wireChildren population =
      ((engine.wireChildren population).1.precededBy log,
        (engine.wireChildren population).2) := by
  rw [wireChildren, wireChildren]
  generalize 0 = added
  induction population.children generalizing engine added with
  | nil => rfl
  | cons subId children ih =>
      rw [List.foldl_cons, List.foldl_cons]
      show List.foldl _ ((engine.precededBy log).wire _ _, _) children = _
      rw [preceded_by_wire]
      exact ih _

/-- What was reported before does not matter to an announced population. -/
theorem preceded_by_discover (population : Discovery) :
    (engine.precededBy log).discover population =
      (engine.discover population).precededBy log := by
  have hsettings : (engine.precededBy log).settings = engine.settings := rfl
  rw [discover, discover, preceded_by_wire_children, hsettings]
  split
  · dsimp only
    split
    · rfl
    · rw [preceded_by_report, preceded_by_flush]
  · exact preceded_by_report _

/-- What was reported before does not matter to samples of a stream. -/
theorem preceded_by_handle_sample (stream : String) (payload : Members Json) :
    (engine.precededBy log).handleSample stream payload =
      (engine.handleSample stream payload).precededBy log := by
  have hsame : (engine.precededBy log).subscriptions.deliver (engine.precededBy log).registry
      (engine.precededBy log).settings.ranges stream payload =
        engine.subscriptions.deliver engine.registry engine.settings.ranges stream payload := rfl
  rw [handleSample, handleSample, hsame]
  cases engine.subscriptions.deliver engine.registry engine.settings.ranges stream payload with
  | none => exact preceded_by_report _
  | some delivered =>
      rw [← preceded_by_flush_entity]
      simp [precededBy]

/-- What was reported before does not matter to an event. -/
theorem preceded_by_handle_event (event : StreamEvent) :
    (engine.precededBy log).handleEvent event = (engine.handleEvent event).precededBy log := by
  cases event with
  | sample stream payload => exact preceded_by_handle_sample stream payload
  | discovery population => exact preceded_by_discover population

/-- What was reported before does not matter to the rest of a session that listens. -/
theorem preceded_by_listen (stop : Nat) (closes : Bool) (now : Nat)
    (arrivals : List (Nat × Option StreamEvent)) :
    (engine.precededBy log).listen stop closes now arrivals =
      (engine.listen stop closes now arrivals).precededBy log := by
  induction arrivals generalizing engine now with
  | nil =>
      rw [listen, listen]
      split
      · exact preceded_by_report _
      · rfl
  | cons arrival arrivals ih =>
      obtain ⟨time, event⟩ := arrival
      rw [listen, listen]
      split
      · rw [← ih]
        cases event with
        | none => rfl
        | some event =>
            show listen _ _ _ _ ((engine.precededBy log).handleEvent event) = _
            rw [preceded_by_handle_event]
            rfl
      · rfl

end Engine

/-! ## The request -/

/-- A connection on which it is recorded when the server is asked, and for what. -/
def Requester.recording {σ : Type} (requester : Requester σ) :
    Requester (σ × List (Engine × StartRequest)) := fun engine request connection =>
  let (answer, left) := requester engine request connection.1
  (answer, left, connection.2 ++ [(engine, request)])

namespace Engine

variable {settings : Settings} {σ : Type}

/-- A session is ready for the samples of an aggregate: it has a record that says they are asked
for, its stream leads to it, and it was drawn once. -/
structure Ready (engine : Engine) (name : String) : Prop where
  registered : ∃ record, engine.registry.get? name = some record ∧
    record.kind = .ofAggregate name ∧ record.subscribed
  routed : engine.subscriptions.route? ((EntityKind.ofAggregate name).stream name) = some name
  drawn : (engine.frames.map (·.entity)).count name = 1

/-- Once the configured aggregates are wired, a session is ready for the samples of each. -/
theorem ready_start (hmode : settings.mode = .push) {name : String}
    (hname : name ∈ configured settings) : (new settings).start.Ready name := by
  have hrecord := get?_wire_configured settings name
  rw [if_pos hname] at hrecord
  constructor
  case registered => exact ⟨_, hrecord, rfl, rfl⟩
  case routed => exact ((Listening.start hmode).routes _ name).mpr ⟨_, hrecord, rfl⟩
  case drawn =>
    obtain ⟨drawn, hdraws, hids⟩ := draws_start hmode
    have hentities : (new settings).start.frames.map (·.entity) =
        (configured settings).eraseDups := by
      rw [hdraws.frames, ← hids, List.map_append, List.map_map]
      rfl
    rw [hentities]
    exact List.count_eq_one_of_mem (nodup_erase_dups _) (List.mem_eraseDups.mpr hname)

/-- A session as it stands once the server was asked and the arrivals were handled, without what was
reported until it was asked. -/
def afterRequest (settings : Settings) (stop : Nat) (closes : Bool)
    (arrivals : List (Nat × Option StreamEvent)) : Engine :=
  let ended := ({ (new settings).start with log := [] } : Engine).listen stop closes 0 arrivals
  ended.report [.stopped ended.registry.records.length]

/-- The answer of the server matters to nothing but a report before the rest of a session. -/
theorem run_push_on_eq (requester : Requester σ) (connection : σ) (stop : Nat) (closes : Bool)
    (arrivals : List (Nat × Option StreamEvent)) :
    runPushOn settings requester connection stop closes arrivals =
      (afterRequest settings stop closes arrivals).precededBy ((new settings).start.log ++
        ((new settings).startOn requester connection).complaints) := by
  have hreport : ((new settings).startOn requester connection).engine.report
      ((new settings).startOn requester connection).complaints =
        ({ (new settings).start with log := [] } : Engine).precededBy ((new settings).start.log ++
          ((new settings).startOn requester connection).complaints) := by
    rw [precededBy, List.append_nil]
    rfl
  rw [runPushOn, hreport, preceded_by_listen, afterRequest, ← preceded_by_report]
  rfl

/-- The server is asked once, with the configured names as they stand in the settings. By then the
session is ready for the samples of each of them, and it is left as it is whatever the answer is.
The rest of a session that listens goes the same way after each answer, but that a failure is
reported. -/
theorem request_follows_wiring (hmode : settings.mode = .push) :
    ∃ moment : Engine,
      (∀ name ∈ settings.watchers ++ settings.watchersWithPids, moment.Ready name) ∧
      (∀ (σ : Type) (requester : Requester σ) (connection : σ) (request : StartRequest),
        request = ⟨settings.watchers, settings.watchersWithPids⟩ →
        ((new settings).startOn requester.recording (connection, [])).connection.2 =
          [(moment, request)] ∧
        ((new settings).startOn requester connection).engine = moment ∧
        ((new settings).startOn requester connection).result =
          (requester moment request connection).1.map fun _ => request) ∧
      ∀ (stop : Nat) (closes : Bool) (arrivals : List (Nat × Option StreamEvent)),
        ∃ session : Engine, ∀ (σ : Type) (requester : Requester σ) (connection : σ),
          runPushOn settings requester connection stop closes arrivals =
            session.precededBy (moment.log ++
              ((new settings).startOn requester connection).complaints) := by
  have hsettings : (new settings).start.settings = settings := settings_wire_configured settings
  have hrequest : startRequest (new settings).start.settings =
      ⟨settings.watchers, settings.watchersWithPids⟩ := by rw [hsettings, startRequest]
  refine ⟨(new settings).start, fun name hname => ready_start hmode hname, ?request, ?session⟩
  case request =>
    rintro σ requester connection request rfl
    rw [← hrequest]
    exact ⟨rfl, rfl, rfl⟩
  case session =>
    intro stop closes arrivals
    exact ⟨_, fun _ requester connection => run_push_on_eq requester connection ..⟩

/-- `web` is configured twice. The session is the same whether the request is sent or the connection
is gone, but for the report of that. -/
theorem request_follows_wiring_refused :
    ∃ moment session : Engine, moment.Ready "web" ∧ moment.Ready "db" ∧
      ((new webTwice).startOn (Requester.recording fun _ _ _ => (.error .closed, ()))
        ((), [])).connection.2 = [(moment, ⟨["web", "db-1"], ["db", "web"]⟩)] ∧
      runPushOn webTwice (fun _ _ _ => (.ok (), ())) () 20 true
          [(5, some (.discovery ⟨.watcher, "db", ["2"]⟩))] =
        session.precededBy moment.log ∧
      runPushOn webTwice (fun _ _ _ => (.error .closed, ())) () 20 true
          [(5, some (.discovery ⟨.watcher, "db", ["2"]⟩))] =
        session.precededBy (moment.log ++ [.startFailed "channel closed"]) := by
  have hmode : webTwice.mode = .push := rfl
  obtain ⟨moment, hready, hrequest, hsession⟩ := request_follows_wiring hmode
  obtain ⟨session, hsession⟩ := hsession 20 true
    [(5, some (.discovery ⟨.watcher, "db", ["2"]⟩))]
  refine ⟨moment, session, hready _ (by decide), hready _ (by decide), ?asked, ?sent, ?refused⟩
  case asked => exact (hrequest Unit (fun _ _ _ => (.error .closed, ())) () _ rfl).1
  case sent =>
    rw [hsession Unit]
    exact congrArg session.precededBy (List.append_nil _)
  case refused => exact hsession Unit _ ()

end Engine

end StatsBoard
