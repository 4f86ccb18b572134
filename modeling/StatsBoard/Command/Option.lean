import StatsBoard.Text.Numeral

/-!
# Options of the command line

The options, what they are called, and the help that is made from them.
-/

namespace StatsBoard

/-- An option of the command line. -/
inductive CommandOption where
  | watcher
  | watcherWithPids
  | mode
  | tlsCa
  | profile
  | save
  | capacity
  | cadence
  | plain
  | dryRun
  | logFile
  | help
  | version
deriving DecidableEq, Repr

namespace CommandOption

/-- All options in the order of the help. -/
def all : List CommandOption :=
  [watcher, watcherWithPids, mode, tlsCa, profile, save, capacity, cadence, plain, dryRun, logFile,
    help, version]

/-- The name of an option, which stands after two hyphens. -/
def name : CommandOption → String
  | watcher => "watcher"
  | watcherWithPids => "watcher-with-pids"
  | mode => "mode"
  | tlsCa => "tls-ca"
  | profile => "profile"
  | save => "save"
  | capacity => "capacity"
  | cadence => "cadence-ms"
  | plain => "plain"
  | dryRun => "dry-run"
  | logFile => "log-file"
  | help => "help"
  | version => "version"

/-- The letter of an option, which stands after one hyphen. -/
def letter? : CommandOption → Option Char
  | watcher => some 'w'
  | watcherWithPids => some 'W'
  | mode => some 'm'
  | tlsCa => some 't'
  | profile => some 'P'
  | help => some 'h'
  | version => some 'V'
  | save | capacity | cadence | plain | dryRun | logFile => none

/-- What the value of an option is called, if it takes one. -/
def value? : CommandOption → Option String
  | watcher | watcherWithPids | profile => some "NAME"
  | mode => some "MODE"
  | tlsCa => some "CERT_PEM"
  | capacity | cadence => some "N"
  | logFile => some "PATH"
  | save | plain | dryRun | help | version => none

/-- An option may be given more than once. -/
def repeats : CommandOption → Bool
  | watcher | watcherWithPids => true
  | _ => false

/-- What an option is for. -/
def purpose : CommandOption → String
  | watcher => "Watcher to chart as a single entity (repeatable)"
  | watcherWithPids => "Watcher whose processes are charted individually (repeatable)"
  | mode => "Ingestion mode: push (WebSocket stream) or pull (HTTP polling)"
  | tlsCa => "PEM CA certificate to trust for https:// and wss://"
  | profile => "Named profile to load, or create on first use"
  | save => "Overwrite an existing profile with the values given on the command line"
  | capacity => "Samples kept per chart"
  | cadence => "Pull interval and redraw delay in milliseconds"
  | plain => "Print one text line per update instead of the TUI"
  | dryRun => "Resolve the configuration, print it as JSON and exit"
  | logFile => "Write logs to this file"
  | help => "Print help"
  | version => "Print version"

/-- The option with a name. -/
def ofName? (name : String) : Option CommandOption :=
  all.find? (·.name == name)

/-- The option with a letter. -/
def ofLetter? (letter : Char) : Option CommandOption :=
  all.find? (·.letter? == some letter)

/-- An option takes a value. -/
def takesValue (option : CommandOption) : Bool :=
  option.value?.isSome

/-- An option as it is written, with what its value is called. -/
def usage (option : CommandOption) : String :=
  "--" ++ option.name ++ ((option.value?.map fun value => " <" ++ value ++ ">").getD "")

/-- What stands before the purpose of an option in the help. -/
def label (option : CommandOption) : String :=
  ((option.letter?.map fun letter => "-" ++ letter.toString ++ ", ").getD "    ") ++ option.usage

end CommandOption

namespace CommandHelp

/-- The length of the longest label. -/
def labelWidth : Nat :=
  (CommandOption.all.map (·.label.length)).foldl max 0

/-- A line of the help. -/
def line (width : Nat) (label purpose : String) : String :=
  "  " ++ label ++ String.ofList (List.replicate (width - label.length) ' ') ++ "  " ++ purpose
    ++ "\n"

/-- The name of the endpoint in the help. -/
def endpoint : String := "[ENDPOINT]"

/-- The line on how the program is called. -/
def usage : String := "Usage: watchdash [OPTIONS] " ++ endpoint ++ "\n"

/-- The help. -/
def text : String :=
  "Live CPU/memory/socket charts for supervised watchers\n\n" ++ usage ++ "\nArguments:\n"
    ++ line endpoint.length endpoint
      "Base URL of the stats endpoint (http://HOST:PORT or https://...)"
    ++ "\nOptions:\n"
    ++ String.join (CommandOption.all.map fun option => line labelWidth option.label option.purpose)

/-- The version. -/
def version : String := "watchdash 0.1.0\n"

end CommandHelp

end StatsBoard
