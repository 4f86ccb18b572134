import StatsBoard.Certificate.Trust
import StatsBoard.Command.Arguments
import StatsBoard.Config.Store
import StatsBoard.Line
import StatsBoard.Log.Filter
import StatsBoard.Session

/-!
# A run of the program

A run reads its arguments, opens its log, works out its configuration and then either prints it or
begins a session. Everything that ends a run before its session is decided here, on any disk. The
program reaches no network by itself: streams cannot be opened, and histories go unanswered.
-/

namespace StatsBoard

/-- How a run ends. -/
structure RunEnd where
  /-- The status that the run leaves behind: 0 for success, 2 for arguments that are not understood,
  1 for every other failure. -/
  status : Nat := 0
  output : String := ""
  /-- What is said of a failure. -/
  complaint : String := ""
deriving DecidableEq, Repr

/-- Where the log goes and what it tells. -/
structure Journal where
  path : Option String := none
  filter : LogFilter := LogFilter.standard
deriving DecidableEq, Repr

/-- What a run comes to. -/
inductive RunOutcome where
  | finished (ending : RunEnd)
  /-- Histories are asked for and shown as lines until the session is interrupted. -/
  | lines (journal : Journal) (config : Config)
  /-- Histories are asked for and shown on a terminal. -/
  | dashboard (journal : Journal) (config : Config)

namespace Command

/-- The end of a run that fails for a reason. -/
def failed (reason : String) : RunEnd where
  status := 1
  complaint := "Error: " ++ reason ++ "\n"

/-- The end of a run that fails for a reason which has a cause of its own. -/
def failedBecause (reason cause : String) : RunEnd :=
  failed (reason ++ "\n\nCaused by:\n    " ++ cause)

/-- The end of a run whose arguments are not understood or ask for no session. -/
def withoutRun : NoRun → RunEnd
  | .help => { output := CommandHelp.text }
  | .version => { output := CommandHelp.version }
  | .misuse error =>
    { status := 2
      complaint := "error: " ++ error.message ++ "\n\n" ++ CommandHelp.usage
        ++ "\nFor more information, try '--help'.\n" }

variable {m : Type → Type} [Monad m]

/-- Add what the filter tells to the log. -/
def report (disk : Disk m) (journal : Journal) (events : List LogEvent) : m Unit := do
  match journal.path with
  | none => return ()
  | some path =>
    let told := events.filter journal.filter.tells
    let _ ← disk.append path (String.join (told.map fun event => event.fileLine ++ "\n"))
    return ()

/-- Open the log, which makes its file if it is missing. -/
def openJournal (disk : Disk m) (environment : Environment) (path : Option String) :
    m (Except RunEnd Journal) := do
  let filter := LogFilter.ofSetting environment.logFilter
  match path with
  | none => return .ok { filter := filter }
  | some path =>
    match ← disk.append path "" with
    | .error fault => return .error (failedBecause ("opening log file " ++ path) fault.message)
    | .ok () => return .ok { path := some path, filter := filter }

/-- Work out what a run works with, and store its profile if that changes. -/
def resolve (disk : Disk m) (environment : Environment) (arguments : Arguments) :
    m (Except ConfigError Resolution) := do
  match ← Profiles.load disk environment with
  | .error error => return .error error
  | .ok profiles =>
    match profiles.resolve arguments.choice arguments.changes with
    | .error error => return .error error
    | .ok resolution =>
      match resolution.stored with
      | none => return .ok resolution
      | some profiles =>
        match ← profiles.save disk environment with
        | .error error => return .error error
        | .ok () => return .ok resolution

/-- Work out the configuration of a run, and tell the log what became of its profile. -/
def configure (disk : Disk m) (environment : Environment) (journal : Journal)
    (arguments : Arguments) : m (Except ConfigError Config) := do
  match ← resolve disk environment arguments with
  | .error error => return .error error
  | .ok resolution =>
    report disk journal resolution.log
    return .ok resolution.config

/-- The file of trusted certificates of a configuration. -/
def trustFile (disk : Disk m) (config : Config) : m (Option TrustFile) := do
  match config.tlsCa with
  | none => return none
  | some path => return some ⟨path, ← disk.read path⟩

/-- Begin the session of a configuration. -/
def beginSession (disk : Disk m) (journal : Journal) (plain : Bool) (config : Config) :
    m RunOutcome := do
  if config.watchers = [] ∧ config.watchersWithPids = [] then
    report disk journal [.noWatchers]
  match config.mode with
  | .push =>
    match config.stream with
    | .error error => return .finished (failed error.message)
    | .ok url =>
      let failure := StreamAddress.openUnanswered url (← trustFile disk config)
      return .finished (failedBecause ("connecting to " ++ url) failure.message)
  | .pull =>
    match Url.openEndpoint config.endpoint (← trustFile disk config) with
    | .error failure => return .finished (failed failure.message)
    | .ok _ => return if plain then .lines journal config else .dashboard journal config

/-- A run up to the beginning of its session. -/
def run (disk : Disk m) (environment : Environment) (arguments : List String) :
    m RunOutcome := do
  match Arguments.parse arguments with
  | .error reason => return .finished (withoutRun reason)
  | .ok arguments =>
    match ← openJournal disk environment arguments.logFile with
    | .error ending => return .finished ending
    | .ok journal =>
      match ← configure disk environment journal arguments with
      | .error error => return .finished (failed error.message)
      | .ok config =>
        if arguments.dryRun then
          return .finished { output := config.toJson.pretty ++ "\n" }
        else beginSession disk journal arguments.plain config

/-- A session that polls and is told to stop before any answer has come. -/
def unanswered (config : Config) : Engine :=
  (Engine.runPull config.settings [] 1).1

/-- What a terminal is called that is not there. -/
def noTerminal : String := "No such device or address (os error 6)"

/-- The end of a session to which nobody attends: lines are printed until the session is
interrupted, and a dashboard finds no terminal. -/
def finish (disk : Disk m) : RunOutcome → m RunEnd
  | .finished ending => return ending
  | .lines journal config => do
    let engine := unanswered config
    report disk journal engine.log
    return { output := EntityFrame.lines config.width engine.frames }
  | .dashboard journal config => do
    let engine := unanswered config
    report disk journal (engine.log ++ [.sessionEnded engine.registry.records.length])
    return failed noTerminal

/-- A whole run to which nobody attends. -/
def runUnattended (disk : Disk m) (environment : Environment) (arguments : List String) :
    m RunEnd := do
  finish disk (← run disk environment arguments)

end Command

end StatsBoard
