import StatsBoard.Entity
import StatsBoard.Metric
import StatsBoard.Text.Numeral
import StatsBoard.Text.Quoted

/-!
# The journal

What a session has to say about itself. An event is a cause with its data; its level, the part of
the program that reports it and its wording are functions of the event, so that nothing else
writes journal text.
-/

namespace StatsBoard

/-- How much an event matters, least first. -/
inductive LogLevel where
  | trace
  | debug
  | info
  | warn
  | error
deriving DecidableEq, Repr

namespace LogLevel

/-- The name of a level in a line of the journal. -/
def name : LogLevel → String
  | trace => "TRACE"
  | debug => "DEBUG"
  | info => "INFO"
  | warn => "WARN"
  | error => "ERROR"

/-- The place of a level; a higher one matters more. -/
def rank : LogLevel → Nat
  | trace => 1
  | debug => 2
  | info => 3
  | warn => 4
  | error => 5

end LogLevel

/-- The parts of the program that report events. -/
inductive Reporter where
  | program
  | registry
  | subscriptions
  | polling
  | redraw
  | engine
  | statsClient
  | streamClient
deriving DecidableEq, Repr

namespace Reporter

/-- The name of a reporter in a line of the journal, and in filters. -/
def name : Reporter → String
  | program => "watchdash"
  | registry => "watchdash::registry"
  | subscriptions => "watchdash::ingest::push"
  | polling => "watchdash::ingest::pull"
  | redraw => "watchdash::render"
  | engine => "watchdash::supervisor"
  | statsClient => "watchdash::transport::http"
  | streamClient => "watchdash::transport::ws"

end Reporter

/-- Something that happened. -/
inductive LogEvent where
  /-- A record was made for an entity. -/
  | registered (id : String) (kind : EntityKind)
  /-- A stream now leads to an entity. -/
  | subscribed (id stream : String)
  /-- A streamed payload had no usable value for a metric of its entity. -/
  | missedSample (id : String) (metric : Metric)
  /-- A metric was not asked for, because the last answer is still outstanding. -/
  | fetchOutstanding (entity : String) (metric : Metric)
  /-- A request was answered by a failure. -/
  | fetchFailed (entity : String) (metric : Metric) (reason : String)
  /-- An answer had something other than a list of samples under a key. -/
  | keySkipped (entity key : String)
  /-- Frames were drawn. -/
  | flushed (drawn : Nat)
  /-- The server is being asked for samples. -/
  | requestingStats (watchers dynamic subscriptions : Nat)
  /-- A sample came on a stream that leads to no entity. -/
  | sampleDropped (stream : String)
  /-- A population was announced for an aggregate that should have none. -/
  | discoveryIgnored (parent : String)
  /-- Announced children were wired. -/
  | discovered (parent : String) (added : Nat)
  /-- The request for samples could not be sent. -/
  | startFailed (reason : String)
  /-- The stream of events ended. -/
  | streamClosed
  /-- The work on a request broke off. -/
  | fetchTaskFailed
  /-- The session is over. -/
  | stopped (entities : Nat)
  /-- An address is being asked for samples. -/
  | fetching (url : String)
  /-- A received text could not be decoded. -/
  | frameSkipped (reason : String)
  /-- The stream broke while it was read. -/
  | readFailed (reason : String)
  /-- A text could not be sent on the stream. -/
  | writeFailed (reason : String)
  /-- The reader of the stream is done. -/
  | readerFinished
  /-- A profile was stored for the first time. -/
  | profileCreated (profile : String)
  /-- A stored profile was replaced. -/
  | profileUpdated (profile : String)
  /-- The arguments differ from a stored profile, which was kept. -/
  | profileDiffers (profile : String)
  /-- There is nothing to show. -/
  | noWatchers
  /-- The session ended together with the screen. -/
  | sessionEnded (entities : Nat)
deriving DecidableEq, Repr

namespace EntityKind

/-- A kind as the journal writes it. -/
def journalText : EntityKind → String
  | aggregate family => "Aggregate \x7b family: " ++ familyText family ++ " \x7d"
  | concrete parent subId family =>
    "Concrete \x7b parent: " ++ Text.quoted parent ++ ", sub_id: " ++ Text.quoted subId
      ++ ", family: " ++ familyText family ++ " \x7d"
where
  /-- A family as the journal writes it. -/
  familyText : Family → String
    | .watcher => "Watcher"
    | .socket => "Socket"

end EntityKind

namespace LogEvent

open Text

/-- The level of an event. -/
def level : LogEvent → LogLevel
  | subscribed .. | missedSample .. | flushed .. | fetching .. => .trace
  | registered .. | fetchOutstanding .. | keySkipped .. | sampleDropped .. | discoveryIgnored ..
  | stopped .. | frameSkipped .. | readerFinished => .debug
  | requestingStats .. | discovered .. | profileCreated .. | profileUpdated ..
  | sessionEnded .. => .info
  | fetchFailed .. | startFailed .. | streamClosed | fetchTaskFailed | readFailed ..
  | writeFailed .. | profileDiffers .. | noWatchers => .warn

/-- The part of the program that reports an event. -/
def reporter : LogEvent → Reporter
  | registered .. => .registry
  | subscribed .. | missedSample .. => .subscriptions
  | fetchOutstanding .. | fetchFailed .. | keySkipped .. => .polling
  | flushed .. => .redraw
  | requestingStats .. | sampleDropped .. | discoveryIgnored .. | discovered .. | startFailed ..
  | streamClosed | fetchTaskFailed | stopped .. => .engine
  | fetching .. => .statsClient
  | frameSkipped .. | readFailed .. | writeFailed .. | readerFinished => .streamClient
  | profileCreated .. | profileUpdated .. | profileDiffers .. | noWatchers
  | sessionEnded .. => .program

/-- The message of an event. -/
def message : LogEvent → String
  | registered .. => "registered entity"
  | subscribed .. => "subscribed"
  | missedSample .. => "no usable sample"
  | fetchOutstanding .. => "previous fetch outstanding, skipping"
  | fetchFailed _ _ reason => "fetch failed: " ++ reason
  | keySkipped .. => "non-list samples skipped"
  | flushed .. => "flushed frames"
  | requestingStats .. => "requesting stats"
  | sampleDropped .. => "sample for unsubscribed stream dropped"
  | discoveryIgnored .. => "discovery for an aggregate without a sub-population ignored"
  | discovered .. => "discovered entities"
  | startFailed reason => "start request failed, waiting for shutdown: " ++ reason
  | streamClosed => "event stream closed, keeping last data"
  | fetchTaskFailed => "fetch task failed: task panicked"
  | stopped _ => "supervisor stopped"
  | fetching _ => "fetching stats"
  | frameSkipped reason => "skipping undecodable frame: " ++ reason
  | readFailed reason => "stream read failed: " ++ reason
  | writeFailed reason => "stream write failed: " ++ reason
  | readerFinished => "stream reader finished"
  | profileCreated _ => "profile created"
  | profileUpdated _ => "profile updated"
  | profileDiffers _ => "command line differs from saved profile; pass --save to overwrite"
  | noWatchers => "no watchers configured; pass -w NAME or -W NAME"
  | sessionEnded _ => "session ended"

/-- The data of an event: names with the text of their values. -/
def fields : LogEvent → List (String × String)
  | registered id kind => [("entity", quoted id), ("kind", kind.journalText)]
  | subscribed id stream => [("entity", quoted id), ("stream", stream)]
  | missedSample id metric => [("entity", quoted id), ("metric", metric.name)]
  | fetchOutstanding entity metric | fetchFailed entity metric _ =>
    [("entity", entity), ("metric", metric.name)]
  | keySkipped entity key => [("entity", entity), ("key", key)]
  | flushed drawn => [("drawn", natNumeral drawn)]
  | requestingStats watchers dynamic subscriptions =>
    [("watchers", natNumeral watchers), ("dynamic", natNumeral dynamic),
      ("subscriptions", natNumeral subscriptions)]
  | sampleDropped stream => [("stream", stream)]
  | discoveryIgnored parent => [("parent", parent)]
  | discovered parent added => [("parent", parent), ("added", natNumeral added)]
  | stopped entities | sessionEnded entities => [("entities", natNumeral entities)]
  | fetching url => [("url", url)]
  | profileCreated profile | profileUpdated profile | profileDiffers profile =>
    [("profile", profile)]
  | startFailed _ | streamClosed | fetchTaskFailed | frameSkipped _ | readFailed _
  | writeFailed _ | readerFinished | noWatchers => []

/-- The message of an event with its data. -/
def text (event : LogEvent) : String :=
  event.fields.foldl (fun text (name, value) => text ++ " " ++ name ++ "=" ++ value) event.message

/-- An event as a line: its level, its message and its data. -/
def line (event : LogEvent) : String :=
  event.level.name ++ " " ++ event.text

/-- An event as a line of a log file, without the time. -/
def fileLine (event : LogEvent) : String :=
  event.level.name ++ " " ++ event.reporter.name ++ ": " ++ event.text

end LogEvent

end StatsBoard
