import StatsBoard.History.Address
import StatsBoard.Log

/-!
# Asking for histories

How a request for a history can go wrong, and what that means to those who asked.
-/

namespace StatsBoard

/-- What was being done with a request when it went wrong. -/
inductive RequestStage where
  /-- The request was being made. -/
  | building
  /-- The server was being sought. -/
  | connecting
  /-- The status of the answer was being judged. -/
  | judging
  /-- The body of the answer was being read or decoded. -/
  | reading
deriving DecidableEq, Repr

/-- How a request went wrong. -/
structure RequestFault where
  stage : RequestStage
  /-- It took too long. -/
  late : Bool := false
  reason : String := ""
deriving DecidableEq, Repr

namespace RequestFault

/-- A fault as a failure of the exchange with the server. That it took too long counts first,
wherever that happened. -/
def failure (fault : RequestFault) : TransportError :=
  if fault.late then .timeout
  else
    match fault.stage with
    | .connecting => .connection fault.reason
    | .reading => .parse fault.reason
    | .building | .judging => .http fault.reason

end RequestFault

namespace FetchRequest

/-- What is said of a request for an address. -/
def faultMessage (address : Url) : String :=
  "error sending request for url (" ++ address.text ++ ")"

/-- How a request ends when nobody answers. Under a scheme that is not one of the web, none is
made. -/
def unanswered (endpoint : Url) (request : FetchRequest) : TransportError :=
  let address := request.url endpoint
  let stage : RequestStage :=
    if address.scheme = "http" ∨ address.scheme = "https" then .connecting else .building
  RequestFault.failure { stage := stage, reason := faultMessage address }

/-- What is reported of a request. -/
def fetchLog (endpoint : Url) (request : FetchRequest) : List LogEvent :=
  [.fetching (request.url endpoint).text]

end FetchRequest

end StatsBoard
