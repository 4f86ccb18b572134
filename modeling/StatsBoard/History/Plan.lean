import StatsBoard.History.Request
import StatsBoard.History.Response
import StatsBoard.Transport

/-!
# Which histories to ask for

Each tracked aggregate has a history per metric. A history is asked for whole until an answer to it
has arrived, and from then on by its tail. While a request is outstanding, its history is not asked
for again.
-/

namespace StatsBoard

/-- The histories that are polled. -/
structure FetchPlan where
  tail : TailRange
  /-- The tracked aggregates with their metrics. -/
  targets : List (String × List Metric) := []
  /-- The histories of which an answer has arrived. -/
  seeded : List (String × Metric) := []
  /-- The histories with an outstanding request. -/
  outstanding : List (String × Metric) := []
deriving DecidableEq, Repr

/-- What becomes of one history when requests are due. -/
inductive Due where
  | ask (request : FetchRequest)
  /-- The last request is still outstanding. -/
  | waiting (entity : String) (metric : Metric)
deriving DecidableEq, Repr

namespace Due

/-- The request that is made, if one is. -/
def request? : Due → Option FetchRequest
  | ask request => some request
  | waiting .. => none

/-- What is reported of a history. -/
def log : Due → List LogEvent
  | ask _ => []
  | waiting entity metric => [.fetchOutstanding entity metric]

end Due

namespace FetchPlan

/-- A plan that tracks nothing. -/
def empty (tail : TailRange) : FetchPlan := { tail := tail }

/-- The aggregate is tracked. -/
def tracks (plan : FetchPlan) (entity : String) : Bool :=
  plan.targets.any (·.1 == entity)

/-- Track an aggregate, unless it is tracked; its histories start afresh. -/
def track (plan : FetchPlan) (entity : String) (metrics : List Metric) : FetchPlan :=
  if plan.tracks entity then plan
  else
    let other (pair : String × Metric) : Bool := !(pair.1 == entity && metrics.contains pair.2)
    { plan with
      targets := plan.targets ++ [(entity, metrics)]
      seeded := plan.seeded.filter other
      outstanding := plan.outstanding.filter other }

/-- The tracked histories: aggregates in the order of tracking, their metrics in order. -/
def pairs (plan : FetchPlan) : List (String × Metric) :=
  plan.targets.flatMap fun (entity, metrics) => metrics.map (entity, ·)

/-- The request for a history. -/
def requestFor (plan : FetchPlan) (pair : String × Metric) : FetchRequest where
  entity := pair.1
  metric := pair.2
  range := if plan.seeded.contains pair then some plan.tail else none

/-- What becomes of histories in order, given those with an outstanding request. -/
def dueFrom (plan : FetchPlan) : List (String × Metric) → List (String × Metric) → List Due
  | _, [] => []
  | outstanding, pair :: pairs =>
    if outstanding.contains pair then .waiting pair.1 pair.2 :: plan.dueFrom outstanding pairs
    else .ask (plan.requestFor pair) :: plan.dueFrom (outstanding ++ [pair]) pairs

/-- What becomes of the tracked histories now. -/
def due (plan : FetchPlan) : List Due :=
  plan.dueFrom plan.outstanding plan.pairs

/-- The requests that are due. -/
def requests (plan : FetchPlan) : List FetchRequest :=
  plan.due.filterMap Due.request?

/-- What is reported when requests are made. -/
def requestsLog (plan : FetchPlan) : List LogEvent :=
  plan.due.flatMap Due.log

/-- The plan after making the requests that are due. -/
def advance (plan : FetchPlan) : FetchPlan :=
  { plan with outstanding := plan.outstanding ++ plan.requests.map (·.pair) }

/-- The plan after the end of a request, which may have been answered. -/
def settle (plan : FetchPlan) (request : FetchRequest) (answered : Bool) : FetchPlan :=
  { plan with
    outstanding := plan.outstanding.filter (· != request.pair)
    seeded :=
      if answered && !plan.seeded.contains request.pair then plan.seeded ++ [request.pair]
      else plan.seeded }

/-- No request for the aggregate is outstanding. -/
def idle (plan : FetchPlan) (entity : String) : Bool :=
  !(plan.outstanding.any (·.1 == entity))

/-- The number of outstanding requests. -/
def inFlight (plan : FetchPlan) : Nat :=
  plan.outstanding.length

end FetchPlan

/-- How a request ended. -/
abbrev FetchResult := Except TransportError StatsResponse

namespace FetchResult

/-- The request was answered. -/
def answered : FetchResult → Bool
  | .ok _ => true
  | .error _ => false

end FetchResult

/-- Store what a request ended with; a failure stores nothing. -/
def Registry.complete (ranges : Ranges) (request : FetchRequest) (registry : Registry) :
    FetchResult → Received
  | .ok response =>
    registry.receiveAll ranges request.entity request.metric (response.shares request.entity)
  | .error error =>
    ⟨registry, [], [.fetchFailed request.entity request.metric error.message]⟩

end StatsBoard
