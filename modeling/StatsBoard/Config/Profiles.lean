import StatsBoard.Config.Basic

/-!
# Profiles

Configurations kept under names, in the order of the names, and their text. A file of profiles also
bears a number for its version.
-/

namespace StatsBoard

/-- Configurations under names. The names rise. -/
structure Profiles where
  profiles : List (String × Config) := []
  version : Nat := 0
deriving DecidableEq, Repr

namespace Profiles

/-- The configuration under a name. -/
def get? (profiles : Profiles) (name : String) : Option Config :=
  (profiles.profiles.find? (·.1 == name)).map (·.2)

/-- Put a configuration under a name into a rising list. -/
def insertRising (name : String) (config : Config) :
    List (String × Config) → List (String × Config)
  | [] => [(name, config)]
  | (other, kept) :: rest =>
    if name = other then (name, config) :: rest
    else if name < other then (name, config) :: (other, kept) :: rest
    else (other, kept) :: insertRising name config rest

/-- Put a configuration under a name. -/
def put (profiles : Profiles) (name : String) (config : Config) : Profiles :=
  { profiles with profiles := insertRising name config profiles.profiles }

/-- The fields of a file of profiles; both may be missing. -/
def fields : List (Field Profiles) :=
  [.optional "profiles"
      (.map some Config.decoder [] fun kept name config => insertRising name config kept)
      fun profiles kept => { profiles with profiles := kept },
    .optional "version" (.natural UInt32.size) fun profiles version =>
      { profiles with version := version }]

/-- Profiles as they are read. -/
def decoder : Decoder Profiles :=
  .record fields { }

/-- The profiles of a text. -/
def parse (text : String) : Except JsonError Profiles :=
  Json.read decoder text

/-- Profiles as JSON. -/
def toJson (profiles : Profiles) : Json :=
  .object [("profiles", .object (profiles.profiles.map fun (name, config) =>
      (name, config.toJson))),
    ("version", .ofNat profiles.version)]

/-- The text of a file of profiles. -/
def text (profiles : Profiles) : String :=
  profiles.toJson.pretty

end Profiles

end StatsBoard
