import StatsBoard.Config.Profiles
import StatsBoard.File.Basic

/-!
# The file of profiles

Where profiles are kept, how they are read and how they are written. A missing file holds no
profiles.
-/

namespace StatsBoard

/-- What the surroundings of the program say. -/
structure Environment where
  /-- The directory of configurations. -/
  configHome : Option String := none
  /-- The directory of the user. -/
  home : Option String := none
  /-- What the log is to tell. -/
  logFilter : Option String := none
deriving DecidableEq, Repr

namespace Environment

/-- The directory in which configurations of programs are kept. -/
def configDirectory (environment : Environment) : String :=
  match environment.configHome, environment.home with
  | some directory, _ => directory
  | none, some home => FilePath.join home ".config"
  | none, none => "."

/-- The directory of the file of profiles. -/
def profilesDirectory (environment : Environment) : String :=
  FilePath.join environment.configDirectory "watchdash"

/-- The file of profiles. -/
def profilesPath (environment : Environment) : String :=
  FilePath.join environment.profilesDirectory "profiles.json"

end Environment

namespace Profiles

/-- The profiles in what was read of a file. -/
def ofFile (path : String) : Except FileFault String → Except ConfigError Profiles
  | .ok text =>
    match parse text with
    | .ok profiles => .ok profiles
    | .error error => .error (.profiles path error.category)
  | .error .notFound => .ok { }
  | .error fault => .error (.file path fault.message)

variable {m : Type → Type} [Monad m]

/-- Read the profiles. -/
def load (disk : Disk m) (environment : Environment) : m (Except ConfigError Profiles) := do
  let path := environment.profilesPath
  return ofFile path (← disk.read path)

/-- Write the profiles, making the directory of the file if it is missing. -/
def save (disk : Disk m) (environment : Environment) (profiles : Profiles) :
    m (Except ConfigError Unit) := do
  let directory := environment.profilesDirectory
  match ← disk.makeDirectories directory with
  | .error fault => return .error (.file directory fault.message)
  | .ok () =>
    let path := environment.profilesPath
    match ← disk.write path profiles.text with
    | .error fault => return .error (.file path fault.message)
    | .ok () => return .ok ()

end Profiles

end StatsBoard
