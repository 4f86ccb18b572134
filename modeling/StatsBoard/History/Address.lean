import StatsBoard.History.Request
import StatsBoard.Transport
import StatsBoard.Url.Edit

/-!
# Where histories are found

The address of a history lies under the endpoint: the aggregate and the metric are segments of the
path, and a slice is written into the query.
-/

namespace StatsBoard

/-- The endpoint that a text writes. Only an address whose path is a list of segments can be one. -/
def Url.parseEndpoint (text : String) : Except TransportError Url :=
  match Url.parse text with
  | .error error => .error (.url error.message)
  | .ok url =>
    if url.path.isRooted then .ok url
    else .error (.url (url.text ++ " cannot be a base url"))

/-- A slice as pairs of a query. -/
def TailRange.pairs (range : TailRange) : List (String × String) :=
  [("start", Text.intNumeral range.start), ("end", Text.intNumeral range.stop)]

/-- The address of what a request asks for. -/
def FetchRequest.url (endpoint : Url) (request : FetchRequest) : Url :=
  let resource :=
    endpoint.appendSegments ["watchers", request.entity, "stats", request.metric.name]
  match request.range with
  | some range => resource.appendPairs range.pairs
  | none => resource

end StatsBoard
