import StatsBoard.Engine

/-!
# Sessions

A session runs until it is told to stop. Time is counted in milliseconds from its start, and
nothing happens at or after the time at which it stops. What the server does is given as a script:
the events it sends, or the answers it gives to requests.
-/

namespace StatsBoard

/-- What a server sends in a session that listens. -/
structure PushScript where
  /-- What arrives, in order, each at its time or right after what came before; nothing that
  matters, if there is no event. -/
  arrivals : List (Nat × Option StreamEvent) := []
  /-- The stream ends after the last arrival. -/
  closes : Bool := false
  /-- Why the request for samples cannot be sent, if it cannot. -/
  refusal : Option TransportError := none

/-- Handle the arrivals before the end of the session, in order. -/
def Engine.listen (stop : Nat) (closes : Bool) :
    Nat → List (Nat × Option StreamEvent) → Engine → Engine
  | now, [], engine =>
    if closes && now < stop then engine.report [.streamClosed] else engine
  | now, (time, event) :: arrivals, engine =>
    let now := max now time
    if now < stop then
      listen stop closes now arrivals ((event.map engine.handleEvent).getD engine)
    else engine

/-- A connection that answers as the script says. -/
def PushScript.requester (script : PushScript) : Requester Unit := fun _ _ connection =>
  match script.refusal with
  | none => (.ok (), connection)
  | some error => (.error error, connection)

/-- A session that asks on a connection and listens. A failed request does not end it. -/
def Engine.runPushOn {σ : Type} (settings : Settings) (requester : Requester σ) (connection : σ)
    (stop : Nat) (closes : Bool) (arrivals : List (Nat × Option StreamEvent)) : Engine :=
  let started := (Engine.new settings).startOn requester connection
  let ended := (started.engine.report started.complaints).listen stop closes 0 arrivals
  ended.report [.stopped ended.registry.records.length]

/-- A session that listens. -/
def Engine.runPush (settings : Settings) (script : PushScript) (stop : Nat) : Engine :=
  runPushOn settings script.requester () stop script.closes script.arrivals

/-- How the work on a request ends. -/
inductive FetchOutcome where
  | finished (result : FetchResult)
  /-- The work broke off without a result. -/
  | crashed

/-- A scripted answer: for which history, how long after the request, and what. -/
structure ScriptedAnswer where
  entity : String
  metric : Metric
  delay : Nat
  outcome : FetchOutcome

/-- A request that will end. -/
structure Ending where
  time : Nat
  request : FetchRequest
  outcome : FetchOutcome

/-- A session that polls, with the requests made so far and their times, the requests that will
end, and the answers not used yet. -/
structure Polling where
  engine : Engine
  requests : List (FetchRequest × Nat) := []
  endings : List Ending := []
  answers : List ScriptedAnswer

namespace Polling

/-- Take the first answer for a history out of a script. -/
def takeAnswer (request : FetchRequest) :
    List ScriptedAnswer → Option (ScriptedAnswer × List ScriptedAnswer)
  | [] => none
  | answer :: answers =>
    if answer.entity = request.entity ∧ answer.metric = request.metric then some (answer, answers)
    else (takeAnswer request answers).map fun (found, rest) => (found, answer :: rest)

/-- Make one request. Without an answer in the script it never ends. -/
def make (now : Nat) (polling : Polling) (request : FetchRequest) : Polling :=
  let requests := polling.requests ++ [(request, now)]
  match takeAnswer request polling.answers with
  | some (answer, answers) =>
    { polling with
      requests := requests
      endings := polling.endings ++ [⟨now + answer.delay, request, answer.outcome⟩]
      answers := answers }
  | none => { polling with requests := requests }

/-- Make the requests that are due. -/
def tick (now : Nat) (polling : Polling) : Polling :=
  let due := polling.engine.requests
  due.foldl (make now) { polling with engine := polling.engine.planFetches }

/-- Handle the end of a request. -/
def finish (engine : Engine) (ending : Ending) : Engine :=
  match ending.outcome with
  | .finished result => engine.handleFetched ending.request result
  | .crashed => engine.report [.fetchTaskFailed]

/-- Handle the requests that end before a time: in the order of their ends, and in the order in
which they were made where they end together. -/
def finishBefore (time : Nat) (polling : Polling) : Polling :=
  let (ripe, rest) := polling.endings.partition (·.time < time)
  { polling with
    engine := (ripe.mergeSort fun a b => a.time ≤ b.time).foldl finish polling.engine
    endings := rest }

/-- One round: requests are made, and those that end before the next round are handled. -/
def round (cadence stop : Nat) (polling : Polling) (count : Nat) : Polling :=
  (polling.tick (count * cadence)).finishBefore (min stop ((count + 1) * cadence))

end Polling

/-- A session that polls: the engine at its end, and the requests made with their times. -/
def Engine.runPull (settings : Settings) (answers : List ScriptedAnswer) (stop : Nat) :
    Engine × List (FetchRequest × Nat) :=
  let start : Polling := { engine := (Engine.new settings).wireConfigured, answers := answers }
  let rounds := (stop + settings.cadence - 1) / settings.cadence
  let ended := (List.range rounds).foldl (Polling.round settings.cadence stop) start
  (ended.engine.report [.stopped ended.engine.registry.records.length], ended.requests)

/-- What is said when the settings ask for another way to receive samples than is offered. -/
def IngestMode.mismatchMessage (mode : IngestMode) : String :=
  mode.name ++ " mode needs a " ++ mode.name ++ " transport"

end StatsBoard
