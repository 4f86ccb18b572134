import StatsBoard.History.Plan
import StatsBoard.Redraw
import StatsBoard.Settings
import StatsBoard.Stream.Subscriptions

/-!
# The engine

All that a session knows, and what happens to it: configured aggregates are wired, events of the
stream are handled, requests are made and their answers stored. Nothing else changes a session.
The frames drawn and the events reported so far are part of the state, oldest first.
-/

namespace StatsBoard

/-- The state of a session. -/
structure Engine where
  settings : Settings
  registry : Registry
  subscriptions : Subscriptions := { }
  plan : FetchPlan
  redraw : Redraw := { }
  /-- The frames drawn so far. -/
  frames : List EntityFrame := []
  /-- What was reported so far. -/
  log : List LogEvent := []
deriving DecidableEq

namespace Engine

/-- The state before anything is wired. -/
def new (settings : Settings) : Engine where
  settings := settings
  registry := .empty settings.layout
  plan := .empty settings.tail

/-- Report events. -/
def report (engine : Engine) (events : List LogEvent) : Engine :=
  { engine with log := engine.log ++ events }

/-- Take over what a flush left, drew and reported. -/
def drawn (engine : Engine) (flushed : Flushed) : Engine :=
  { engine with
    redraw := flushed.redraw
    frames := engine.frames ++ flushed.frames
    log := engine.log ++ flushed.log }

/-- Draw the entities that wait and are asked for. -/
def flushWhere (engine : Engine) (wanted : EntityRecord → Bool) : Engine :=
  engine.drawn (engine.redraw.flushWhere engine.registry engine.settings.palette wanted)

/-- Draw all entities that wait. -/
def flush (engine : Engine) : Engine :=
  engine.drawn (engine.redraw.flush engine.registry engine.settings.palette)

/-- Draw one entity. -/
def flushEntity (engine : Engine) (id : String) : Engine :=
  engine.drawn (engine.redraw.flushEntity engine.registry engine.settings.palette id)

/-- The entity's samples are being asked for. -/
def isWired (engine : Engine) (id : String) : Bool :=
  ((engine.registry.get? id).map (·.subscribed)).getD false

/-- Register an entity and mark its samples as asked for. -/
def enlist (engine : Engine) (id : String) (kind : EntityKind) : Engine :=
  { engine with
    registry := engine.registry.enlist id kind
    redraw := engine.redraw.mark id
    log := engine.log ++ engine.registry.ensureLog id kind }

/-- Let an entity listen to its stream. -/
def subscribe (engine : Engine) (id : String) (kind : EntityKind) : Engine :=
  { engine with
    subscriptions := engine.subscriptions.subscribe id kind
    log := engine.log ++ engine.subscriptions.subscribeLog id kind }

/-- Ask for the histories of an aggregate from now on. -/
def track (engine : Engine) (id : String) : Engine :=
  { engine with
    plan := engine.plan.track id (((engine.registry.get? id).map (·.metrics)).getD []) }

/-- Wire an entity unless it is wired. The children of a polled aggregate arrive with its
answers, so only aggregates are tracked. -/
def wire (engine : Engine) (id : String) (kind : EntityKind) : Engine :=
  if engine.isWired id then engine
  else
    match engine.settings.mode with
    | .push => (engine.enlist id kind).subscribe id kind
    | .pull =>
      if kind.isAggregate then (engine.enlist id kind).track id else engine.enlist id kind

/-- The configured aggregates, those charted as one entity first. -/
def configured (settings : Settings) : List String :=
  settings.watchers ++ settings.watchersWithPids

/-- The request that names the configured aggregates. -/
def startRequest (settings : Settings) : StartRequest :=
  ⟨settings.watchers, settings.watchersWithPids⟩

/-- Wire the configured aggregates and draw them. -/
def wireConfigured (engine : Engine) : Engine :=
  ((configured engine.settings).foldl (fun engine name => engine.wire name (.ofAggregate name))
    engine).flush

/-- Wire the configured aggregates; the server is to be asked for their samples next. -/
def start (engine : Engine) : Engine :=
  let engine := engine.wireConfigured
  engine.report [.requestingStats engine.settings.watchers.length
    engine.settings.watchersWithPids.length engine.subscriptions.size]

/-- Wire announced children in order, counting those that were not wired before. -/
def wireChildren (population : Discovery) (engine : Engine) : Engine × Nat :=
  population.children.foldl (fun (engine, added) subId =>
      let id := childId population.parent subId
      (engine.wire id (.concrete population.parent subId population.family),
        if engine.isWired id then added else added + 1))
    (engine, 0)

/-- Wire the announced population of an aggregate whose population is charted. -/
def discover (engine : Engine) (population : Discovery) : Engine :=
  if engine.settings.watchersWithPids.contains population.parent then
    let (wired, added) := engine.wireChildren population
    if added = 0 then wired
    else (wired.report [.discovered population.parent added]).flush
  else engine.report [.discoveryIgnored population.parent]

/-- Store the samples of a stream and draw the entity they belong to. -/
def handleSample (engine : Engine) (stream : String) (payload : Members Json) : Engine :=
  match engine.subscriptions.deliver engine.registry engine.settings.ranges stream payload with
  | some delivered =>
    ({ engine with registry := delivered.registry, log := engine.log ++ delivered.log
       : Engine }).flushEntity delivered.id
  | none => engine.report [.sampleDropped stream]

/-- Handle an event of the stream. -/
def handleEvent (engine : Engine) : StreamEvent → Engine
  | .sample stream payload => engine.handleSample stream payload
  | .discovery population => engine.discover population

/-- The requests that are due. -/
def requests (engine : Engine) : List FetchRequest :=
  engine.plan.requests

/-- Make the requests that are due. -/
def planFetches (engine : Engine) : Engine :=
  { engine with plan := engine.plan.advance, log := engine.log ++ engine.plan.requestsLog }

/-- Store what a request ended with. -/
def store (engine : Engine) (request : FetchRequest) (result : FetchResult) : Engine :=
  let received := engine.registry.complete engine.settings.ranges request result
  { engine with
    registry := received.registry
    plan := engine.plan.settle request result.answered
    redraw := received.touched.foldl Redraw.mark engine.redraw
    log := engine.log ++ received.log }

/-- Handle the end of a request. Once no request for the aggregate is outstanding, all that waits
to be drawn under it is drawn. -/
def handleFetched (engine : Engine) (request : FetchRequest) (result : FetchResult) : Engine :=
  let stored := engine.store request result
  if stored.plan.idle request.entity then stored.flushWhere (·.belongsTo request.entity)
  else stored

end Engine

/-! ## Asking for samples -/

/-- How a connection answers the request for samples, and what is left of the connection. The
session as it stands at that moment comes along, so that it can be observed. -/
abbrev Requester (σ : Type) := Engine → StartRequest → σ → Except TransportError Unit × σ

/-- What starting a session on a connection leaves. -/
structure Started (σ : Type) where
  engine : Engine
  connection : σ
  /-- The request that was sent, or why none could be sent. -/
  result : Except TransportError StartRequest

variable {σ : Type}

/-- Wire the configured aggregates, then ask the server for their samples. -/
def Engine.startOn (engine : Engine) (requester : Requester σ) (connection : σ) : Started σ :=
  let wired := engine.start
  let request := startRequest wired.settings
  let (answer, connection) := requester wired request connection
  ⟨wired, connection, answer.map fun _ => request⟩

/-- What is reported of a session that started. -/
def Started.complaints (started : Started σ) : List LogEvent :=
  match started.result with
  | .ok _ => []
  | .error error => [.startFailed error.message]

end StatsBoard
