import StatsBoard.Frame
import StatsBoard.History.Request
import StatsBoard.Text.Blank
import StatsBoard.Text.Letter

/-!
# Settings of a session

How samples arrive, which aggregates are charted, and how their series and panels are made.
-/

namespace StatsBoard

/-- How samples arrive. -/
inductive IngestMode where
  /-- The server sends them as they are taken. -/
  | push
  /-- The server is asked for histories from time to time. -/
  | pull
deriving DecidableEq, Repr

namespace IngestMode

/-- All modes. -/
def all : List IngestMode := [push, pull]

/-- The name of a mode. -/
def name : IngestMode → String
  | push => "push"
  | pull => "pull"

/-- The mode with exactly the given name. -/
def ofName? (name : String) : Option IngestMode :=
  all.find? (·.name == name)

/-- A text without the blanks around it, in small letters: the form in which it names a mode. -/
def normalForm (text : String) : String :=
  Text.toLowerAscii (Text.trim text)

/-- The mode that a text names. -/
def parse? (text : String) : Option IngestMode :=
  ofName? (normalForm text)

/-- What is said of a text that names no mode. -/
def unknownMessage (text : String) : String :=
  "unknown mode '" ++ normalForm text ++ "' (expected push or pull)"

end IngestMode

/-- The settings of a session. -/
structure Settings where
  mode : IngestMode := .push
  /-- Aggregates charted as one entity. -/
  watchers : List String := []
  /-- Aggregates whose processes or sockets are charted one by one. -/
  watchersWithPids : List String := []
  /-- Milliseconds between two rounds of requests. -/
  cadence : Nat := 1000
  tail : TailRange := { }
  layout : SeriesLayout := { }
  ranges : Ranges := { }
  palette : Palette := .standard
deriving DecidableEq, Repr

end StatsBoard
