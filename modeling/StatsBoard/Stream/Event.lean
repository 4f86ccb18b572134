import StatsBoard.Entity
import StatsBoard.Json.Printer
import StatsBoard.Stream.StartRequest
import StatsBoard.Text.Blank

/-!
# Events of a stream

A server sends frames, each a name with arguments. A name alone says what a frame is: the samples
of one entity, the present population of an aggregate, or something that is of no concern here.
Samples keep the name as that of their stream, and populations name their aggregate, so nothing
else takes event names apart.
-/

namespace StatsBoard

/-- A frame as it is sent: a name and arguments. -/
structure WireFrame where
  name : String
  args : Json := .null
deriving DecidableEq

namespace WireFrame

/-- The fields of a frame; the arguments may be missing. -/
def fields : List (Field WireFrame) :=
  [.mandatory "name" .string fun frame name => { frame with name := name },
    .optional "args" Json.decoder fun frame args => { frame with args := args }]

/-- A frame as it is read. -/
def decoder : Decoder WireFrame :=
  .record fields { name := "" }

/-- The text of a frame. -/
def encode (frame : WireFrame) : String :=
  (Json.object [("name", .string frame.name), ("args", frame.args)]).compact

/-- The frame of a text. -/
def decode (text : String) : Except JsonError WireFrame :=
  Json.read decoder text

end WireFrame

/-- The present population of an aggregate. -/
structure Discovery where
  family : Family
  parent : String
  children : List String
deriving DecidableEq, Repr

/-- A frame that matters. -/
inductive StreamEvent where
  /-- Samples for the stream of one entity, under the names of their metrics. -/
  | sample (stream : String) (payload : Members Json)
  | discovery (population : Discovery)
deriving DecidableEq

namespace StreamEvent

/-- The name of the frame that asks for samples. -/
def startName : String := "get_stats"

/-- The beginning of the names of watcher streams. -/
def watcherPrefix : String := "stats-"

/-- The name of the stream of the sockets together; that of one socket adds a hyphen and its
number. -/
def socketStream : String := "socket-stats"

/-- The end of the names that announce the processes of a watcher. -/
def processesSuffix : String := "-pids"

/-- The name that announces the sockets. -/
def socketsName : String := "socket-stats-fds"

/-- The text after a beginning that it has. -/
def after? (beginning : String) (s : String) : Option String :=
  if beginning.toList.isPrefixOf s.toList then
    some (String.ofList (s.toList.drop beginning.length))
  else none

/-- The text before an end that it has. -/
def before? (ending : String) (s : String) : Option String :=
  if ending.toList.isSuffixOf s.toList then
    some (String.ofList (s.toList.take (s.length - ending.length)))
  else none

/-- The payload in the arguments of a frame: an object, alone or as the first item of an array. -/
def payload? : Json → Option (Members Json)
  | .object members => some members
  | .array (.object members :: _) => some members
  | _ => none

/-- The child that an item of a population names: a number as it is printed, or text that is not
blank, without the blanks around it. -/
def child? : Json → Option String
  | .number n => some (Json.number n).compact
  | .string s => if Text.trim s = "" then none else some (Text.trim s)
  | _ => none

/-- The children listed under a key of the arguments; none, if there is no list. -/
def children (key : String) (args : Json) : List String :=
  match (payload? args).bind (·.get? key) with
  | some (.array items) => items.filterMap child?
  | _ => []

/-- The watcher whose processes a name announces. -/
def announcedWatcher? (name : String) : Option String :=
  ((after? watcherPrefix name).bind (before? processesSuffix)).filter (· != "")

/-- The name is that of a stream of samples. -/
def isStream (name : String) : Bool :=
  match after? watcherPrefix name with
  | some id => id != ""
  | none => name == socketStream || (after? (socketStream ++ "-") name).isSome

/-- The event of a frame, if it is one that matters. -/
def ofFrame? (frame : WireFrame) : Option StreamEvent :=
  if frame.name = socketsName then
    some (.discovery ⟨.socket, Family.sockets, children "fds" frame.args⟩)
  else
    match announcedWatcher? frame.name with
    | some parent => some (.discovery ⟨.watcher, parent, children "pids" frame.args⟩)
    | none =>
      if isStream frame.name then (payload? frame.args).map (.sample frame.name) else none

/-- The event of a text, if it is one that matters. -/
def decode (text : String) : Except JsonError (Option StreamEvent) :=
  (WireFrame.decode text).map ofFrame?

end StreamEvent

/-- The frame that asks for samples. -/
def StartRequest.frame (request : StartRequest) : WireFrame :=
  ⟨StreamEvent.startName, request.toJson⟩

end StatsBoard
