import StatsBoard.Log
import StatsBoard.Text.Letter
import StatsBoard.Text.Split

/-!
# What the log tells

A filter is a list of rules. A rule names the reporters to which it applies by the beginning of
their names, and the least level that they need. Of several rules for a reporter the one with the
longest name counts, and of two with one name the later one.
-/

namespace StatsBoard

/-- A rule of a filter. -/
structure LogRule where
  /-- The beginning of the names of reporters; the empty text begins them all. -/
  reporters : String
  /-- The least level that is told; nothing is, if there is none. -/
  level : Option LogLevel
deriving DecidableEq, Repr

/-- Rules for the log. -/
abbrev LogFilter := List LogRule

namespace LogFilter

open Text

/-- The least level that a word asks for: a name, a digit for how many levels are told, or a word
for nothing. -/
def levelOf? (word : String) : Option (Option LogLevel) :=
  match toLowerAscii word with
  | "off" | "0" => some none
  | "error" | "1" => some (some .error)
  | "warn" | "2" => some (some .warn)
  | "info" | "3" => some (some .info)
  | "debug" | "4" => some (some .debug)
  | "trace" | "5" => some (some .trace)
  | _ => none

/-- The character may stand in the name of a reporter. -/
def isNameCharacter (c : Char) : Bool :=
  isLetter c || isDigit c || c == '_' || c == ':' || c == '-'

/-- The rule that a text writes: a level for all, a name for which everything is told, or a name
with a level. -/
def ruleOf? (text : List Char) : Option LogRule :=
  match levelOf? (String.ofList text) with
  | some level => some ⟨"", level⟩
  | none =>
    let (name, level) := cut (· == '=') text
    if name = [] ∨ !name.all isNameCharacter then none
    else
      match level with
      | none | some [] => some ⟨String.ofList name, some .trace⟩
      | some word => (levelOf? (String.ofList word)).map fun level => ⟨String.ofList name, level⟩

/-- The filter that a text writes: rules with commas between them. -/
def parse? (text : String) : Option LogFilter :=
  ((split (· == ',') text.toList).filter (· != [])).mapM ruleOf?

/-- The filter if none is given. -/
def standard : LogFilter := [⟨"", some .info⟩]

/-- The filter of a setting that may be missing or malformed. -/
def ofSetting (setting : Option String) : LogFilter :=
  (setting.bind parse?).getD standard

/-- The better of two rules for a reporter. -/
def better (best : Option LogRule) (rule : LogRule) : Option LogRule :=
  match best with
  | none => some rule
  | some other => if rule.reporters.length < other.reporters.length then best else some rule

/-- The rule that counts for a reporter. -/
def rule? (filter : LogFilter) (reporter : Reporter) : Option LogRule :=
  (filter.filter fun rule => rule.reporters.toList.isPrefixOf reporter.name.toList).foldl better
    none

/-- An event is told. -/
def tells (filter : LogFilter) (event : LogEvent) : Bool :=
  match (filter.rule? event.reporter).bind (·.level) with
  | some level => level.rank ≤ event.level.rank
  | none => false

end LogFilter

end StatsBoard
