import StatsBoard.Config.Profiles
import StatsBoard.Log

/-!
# From profiles and wishes to a configuration

A run starts from a profile or from the standard configuration, changes what is wished, and must
end with a configuration that can be used. A profile that is named is stored if it is new, and
replaced only on request.
-/

namespace StatsBoard

/-- What is wished of a configuration. -/
structure ConfigChanges where
  endpoint : Option String := none
  watchers : List String := []
  watchersWithPids : List String := []
  mode : Option IngestMode := none
  tlsCa : Option String := none
  capacity : Option Nat := none
  cadence : Option Nat := none
deriving DecidableEq, Repr

/-- Change what is wished. Names replace all names of their kind. -/
def ConfigChanges.apply (changes : ConfigChanges) (config : Config) : Config :=
  { config with
    endpoint := changes.endpoint.getD config.endpoint
    watchers := if changes.watchers = [] then config.watchers else changes.watchers
    watchersWithPids :=
      if changes.watchersWithPids = [] then config.watchersWithPids else changes.watchersWithPids
    mode := changes.mode.getD config.mode
    tlsCa := changes.tlsCa.or config.tlsCa
    capacity := changes.capacity.getD config.capacity
    cadence := changes.cadence.getD config.cadence }

/-- The profile that a run names, and whether it may be replaced. -/
structure ProfileChoice where
  name : String
  overwrite : Bool := false
deriving DecidableEq, Repr

/-- What a run works with. -/
structure Resolution where
  config : Config
  /-- The profiles to store, if they change. -/
  stored : Option Profiles := none
  /-- What is reported of the profile once it is stored. -/
  log : List LogEvent := []
deriving DecidableEq

namespace Profiles

/-- What becomes of the profile that a run names, given the configuration of the run. -/
def keep (profiles : Profiles) (choice : ProfileChoice) (config : Config) : Resolution :=
  let name := choice.name
  match profiles.get? name with
  | none =>
    { config := config, stored := some (profiles.put name config), log := [.profileCreated name] }
  | some kept =>
    if kept = config then { config := config }
    else if choice.overwrite then
      { config := config, stored := some (profiles.put name config), log := [.profileUpdated name] }
    else { config := config, log := [.profileDiffers name] }

/-- The configuration from which a run starts. -/
def start (profiles : Profiles) (choice : Option ProfileChoice) : Config :=
  (choice.bind fun choice => profiles.get? choice.name).getD { }

/-- What a run works with. -/
def resolve (profiles : Profiles) (choice : Option ProfileChoice) (changes : ConfigChanges) :
    Except ConfigError Resolution := do
  let config := changes.apply (profiles.start choice)
  config.validate
  match choice with
  | none => return { config := config }
  | some choice => return profiles.keep choice config

end Profiles

end StatsBoard
