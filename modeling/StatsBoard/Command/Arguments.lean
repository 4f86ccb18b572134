import StatsBoard.Command.Option
import StatsBoard.Config.Resolution

/-!
# Arguments of the command line

Arguments are read from the left. An option takes the argument after it as its value, unless the
value is joined to it; the value is judged only once the next argument is looked at, so that an
argument which is none comes first among the complaints. After two hyphens alone there are no more
options. What is neither an option nor a value is the endpoint.
-/

namespace StatsBoard

/-- What the arguments ask for. -/
structure Arguments where
  changes : ConfigChanges := { }
  profile : Option String := none
  save : Bool := false
  plain : Bool := false
  dryRun : Bool := false
  logFile : Option String := none
deriving DecidableEq, Repr

/-- Why arguments cannot be understood. -/
inductive UsageError where
  | unexpected (argument : String)
  | repeated (option : CommandOption)
  | missingValue (option : CommandOption)
  | surplusValue (option : CommandOption) (value : String)
  | badValue (option : CommandOption) (value reason : String)
deriving DecidableEq, Repr

namespace UsageError

/-- What is said of arguments. -/
def message : UsageError → String
  | unexpected argument => "unexpected argument '" ++ argument ++ "' found"
  | repeated option => "the argument '" ++ option.usage ++ "' cannot be used multiple times"
  | missingValue option => "a value is required for '" ++ option.usage ++ "' but none was supplied"
  | surplusValue option value =>
    "unexpected value '" ++ value ++ "' for '" ++ option.usage ++ "' found; no more were expected"
  | badValue option value reason =>
    "invalid value '" ++ value ++ "' for '" ++ option.usage ++ "': " ++ reason

end UsageError

/-- Why the arguments do not lead to a run. -/
inductive NoRun where
  | help
  | version
  | misuse (error : UsageError)
deriving DecidableEq, Repr

/-- Why a text is no number. -/
inductive NumberFault where
  | empty
  | badDigit
  | tooLarge
deriving DecidableEq, Repr

namespace NumberFault

/-- What is said of a text. -/
def message : NumberFault → String
  | empty => "cannot parse integer from empty string"
  | badDigit => "invalid digit found in string"
  | tooLarge => "number too large to fit in target type"

end NumberFault

namespace Arguments

open Text

/-- Numbers are below this one. -/
def numberLimit : Nat := UInt64.size

/-- Read digits, continuing from the value already read; the first fault counts. -/
def readDigits (value : Nat) : List Char → Except NumberFault Nat
  | [] => .ok value
  | c :: rest =>
    let next := 10 * value + digitValue c
    if !isDigit c then .error .badDigit
    else if numberLimit ≤ next then .error .tooLarge
    else readDigits next rest

/-- The number that a text writes; a plus sign may stand before it. -/
def readNumber (text : String) : Except NumberFault Nat :=
  match text.toList with
  | [] => .error .empty
  | ['+'] => .error .badDigit
  | '+' :: digits => readDigits 0 digits
  | digits => readDigits 0 digits

/-- What has been read of the arguments. -/
structure Progress where
  arguments : Arguments := { }
  /-- The options that were given. -/
  given : List CommandOption := []
  /-- The last option, if its value has not been judged, and the value, if it has come. -/
  pending : Option (CommandOption × Option String) := none
  /-- There are no more options. -/
  closed : Bool := false
deriving DecidableEq, Repr

/-- Change what is wished of the configuration. -/
def change (arguments : Arguments) (change : ConfigChanges → ConfigChanges) : Arguments :=
  { arguments with changes := change arguments.changes }

/-- Take over a number. -/
def withNumber (option : CommandOption) (value : String) (use : Nat → Arguments) :
    Except UsageError Arguments :=
  match readNumber value with
  | .ok n => .ok (use n)
  | .error fault => .error (.badValue option value fault.message)

/-- Take over the value of an option. -/
def withValue (arguments : Arguments) (option : CommandOption) (value : String) :
    Except UsageError Arguments :=
  match option with
  | .watcher => .ok (arguments.change fun c => { c with watchers := c.watchers ++ [value] })
  | .watcherWithPids =>
    .ok (arguments.change fun c => { c with watchersWithPids := c.watchersWithPids ++ [value] })
  | .mode =>
    match IngestMode.parse? value with
    | some mode => .ok (arguments.change fun c => { c with mode := some mode })
    | none => .error (.badValue option value (IngestMode.unknownMessage value))
  | .tlsCa => .ok (arguments.change fun c => { c with tlsCa := some value })
  | .profile => .ok { arguments with profile := some value }
  | .capacity => withNumber option value fun n =>
    arguments.change fun c => { c with capacity := some n }
  | .cadence => withNumber option value fun n =>
    arguments.change fun c => { c with cadence := some n }
  | .logFile =>
    if value = "" then .error (.missingValue option)
    else .ok { arguments with logFile := some value }
  | .save | .plain | .dryRun | .help | .version => .error (.surplusValue option value)

/-- Take over an option without a value. -/
def withFlag (arguments : Arguments) : CommandOption → Arguments
  | .save => { arguments with save := true }
  | .plain => { arguments with plain := true }
  | .dryRun => { arguments with dryRun := true }
  | _ => arguments

namespace Progress

/-- Note that an option was given. -/
def note (progress : Progress) (option : CommandOption) : Except UsageError Progress :=
  if progress.given.contains option && !option.repeats then .error (.repeated option)
  else .ok { progress with given := option :: progress.given }

/-- Take over an option with its value. -/
def takeValue (progress : Progress) (option : CommandOption) (value : String) :
    Except UsageError Progress := do
  let progress ← progress.note option
  return { progress with arguments := ← progress.arguments.withValue option value }

/-- Judge the value of the last option. -/
def settle (progress : Progress) : Except UsageError Progress :=
  match progress.pending with
  | none => .ok progress
  | some (option, none) => .error (.missingValue option)
  | some (option, some value) => { progress with pending := none }.takeValue option value

/-- Read an option without a value. -/
def readFlag (progress : Progress) (option : CommandOption) : Except NoRun Progress := do
  let progress ← progress.settle.mapError .misuse
  match option with
  | .help => .error .help
  | .version => .error .version
  | _ =>
    let progress ← (progress.note option).mapError .misuse
    return { progress with arguments := progress.arguments.withFlag option }

/-- Read an option with a value, which is joined to it or comes next. -/
def readOption (progress : Progress) (option : CommandOption) (value : Option String) :
    Except NoRun Progress := do
  let progress ← progress.settle.mapError .misuse
  match value with
  | some value => (progress.takeValue option value).mapError .misuse
  | none => return { progress with pending := some (option, none) }

/-- Read an argument after two hyphens: a name, and perhaps a value after an equality sign. -/
def readName (progress : Progress) (argument : List Char) : Except NoRun Progress :=
  let (name, value) := cut (· == '=') argument
  match CommandOption.ofName? (String.ofList name) with
  | none => .error (.misuse (.unexpected ("--" ++ String.ofList name)))
  | some option =>
    if option.takesValue then progress.readOption option (value.map String.ofList)
    else
      match value with
      | some value => .error (.misuse (.surplusValue option (String.ofList value)))
      | none => progress.readFlag option

/-- Read an argument after one hyphen: letters of options, and perhaps a value after the last. -/
def readLetters (progress : Progress) : List Char → Except NoRun Progress
  | [] => .ok progress
  | letter :: rest =>
    match CommandOption.ofLetter? letter with
    | none => .error (.misuse (.unexpected ("-" ++ letter.toString)))
    | some option =>
      if option.takesValue then
        progress.readOption option (match rest with
          | [] => none
          | '=' :: value => some (String.ofList value)
          | value => some (String.ofList value))
      else
        match progress.readFlag option with
        | .ok progress => readLetters progress rest
        | .error stop => .error stop

/-- Read the endpoint, of which there can be one. -/
def readEndpoint (progress : Progress) (argument : String) : Except NoRun Progress :=
  if progress.arguments.changes.endpoint.isSome then .error (.misuse (.unexpected argument))
  else do
    let progress ← progress.settle.mapError .misuse
    return { progress with
      arguments := progress.arguments.change fun c => { c with endpoint := some argument } }

/-- Read an argument that is a value of the last option or else the endpoint. -/
def readPlain (progress : Progress) (argument : String) : Except NoRun Progress :=
  match progress.pending with
  | some (option, none) => .ok { progress with pending := some (option, some argument) }
  | _ => progress.readEndpoint argument

/-- Read one argument. -/
def read (progress : Progress) (argument : String) : Except NoRun Progress :=
  if progress.closed then progress.readEndpoint argument
  else
    match argument.toList with
    | ['-', '-'] => .ok { progress with closed := true }
    | '-' :: '-' :: rest => progress.readName rest
    | ['-'] => progress.readPlain argument
    | '-' :: rest => progress.readLetters rest
    | _ => progress.readPlain argument

end Progress

/-- What arguments ask for. -/
def parse (arguments : List String) : Except NoRun Arguments := do
  let progress ← arguments.foldlM Progress.read { }
  let progress ← progress.settle.mapError .misuse
  return progress.arguments

/-- The profile that is named. -/
def choice (arguments : Arguments) : Option ProfileChoice :=
  arguments.profile.map fun name => ⟨name, arguments.save⟩

end Arguments

end StatsBoard
