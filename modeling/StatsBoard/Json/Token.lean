import StatsBoard.Json.Draft
import StatsBoard.Text.Numeral

/-!
# Tokens of JSON text

The tokens of a text are found by an automaton that takes one character at a time. Brackets,
commas and colons are tokens of their own; literals, numbers and strings arrive as drafts. A fault
is the last token of its text.
-/

namespace StatsBoard.Json

open Text

/-- A token: punctuation, a literal or number, or a string. -/
inductive Token where
  | openArray
  | closeArray
  | openObject
  | closeObject
  | comma
  | colon
  | bare (draft : Draft)
  | quoted (draft : Draft)

/-- How far a number has been read. -/
inductive NumberPhase where
  /-- After the minus sign: a digit must follow. -/
  | sign
  /-- After a leading zero: no digit may follow. -/
  | zero
  | whole
  /-- After the point: a digit must follow. -/
  | point
  | fraction
  /-- After the exponent mark: a sign or digit must follow. -/
  | mark
  /-- After the exponent's sign: a digit must follow. -/
  | markSign
  | exponent
deriving DecidableEq

/-- The parts of a number read so far. The significand holds as many digits as fit into 64 bits;
further digits before the point only raise the scale, and further ones after it are dropped. -/
structure NumberParts where
  negative : Bool := false
  significand : Nat := 0
  /-- The power of ten that the place of the point and the digits left out make up. -/
  scale : Int := 0
  /-- A digit did not fit. -/
  full : Bool := false
  isInteger : Bool := true
  exponentNegative : Bool := false
  exponent : Nat := 0

/-- How far an escape inside a string has been read. `high` is the first half of a surrogate pair
that waits for its second. -/
inductive EscapePhase where
  | none
  /-- After a backslash. -/
  | backslash
  /-- Inside the four hexadecimal digits. -/
  | hex (count value : Nat) (high : Option Nat)
  /-- Hexadecimal digits that are none: the escape is refused once four bytes of it are there. -/
  | badHex (bytes : Nat)
  /-- After the first half of a surrogate pair. -/
  | afterHigh (high : Nat)
  /-- After the first half of a surrogate pair and a backslash. -/
  | afterHighBackslash (high : Nat)

/-- The state of the automaton between two characters. -/
inductive LexState where
  | between
  /-- Inside a literal: the letters still missing and its value. -/
  | word (missing : List Char) (value : Draft)
  | number (phase : NumberPhase) (parts : NumberParts)
  /-- Inside a string: its characters in reverse, whether a lone surrogate was seen, and the escape
  being read. -/
  | string (reversed : List Char) (lone : Bool) (escape : EscapePhase)

/-- A number times a power of ten, if the product is finite. Powers up to `10 ^ 308` are numbers
themselves and are applied with one rounding; a smaller one is applied in steps, of which `fuel`
bounds the number. -/
def scaleByPower? : Nat → Binary64 → Int → Option Binary64
  | 0, x, _ => some x
  | fuel + 1, x, exponent =>
    if exponent.natAbs ≤ 308 then
      let power := Binary64.ofDecimal false 1 exponent.natAbs
      if 0 ≤ exponent then (some (x.mul power)).filter (·.isFinite) else some (x.div power)
    else if x.magnitude = 0 then some x
    else if 0 ≤ exponent then none
    else scaleByPower? fuel (x.div (Binary64.ofDecimal false 1 308)) (exponent + 308)

/-- The absolute value of a finished number, if it is finite: the significand as a binary64 number,
then scaled. -/
def NumberParts.absolute? (parts : NumberParts) : Option Binary64 :=
  let exponent : Int := if parts.exponentNegative then -parts.exponent else parts.exponent
  scaleByPower? 4 (Binary64.nearest false parts.significand 1) (parts.scale + exponent)

/-- The draft of a finished number. -/
def NumberParts.draft (parts : NumberParts) : Draft :=
  let integer : Int := if parts.negative then -parts.significand else parts.significand
  if parts.isInteger && Number.inRange integer && !(parts.negative && parts.significand == 0) then
    .number (.integer integer)
  else
    match parts.absolute? with
    | some x => .number (.real (.ofMagnitude parts.negative x.magnitude))
    | none => .unreadable

/-- The parts of a number after a digit before the point. -/
def NumberParts.addWhole (parts : NumberParts) (digit : Nat) : NumberParts :=
  let longer := 10 * parts.significand + digit
  if parts.full || UInt64.size ≤ longer then
    { parts with scale := parts.scale + 1, full := true, isInteger := false }
  else { parts with significand := longer }

/-- The parts of a number after a digit behind the point. -/
def NumberParts.addFraction (parts : NumberParts) (digit : Nat) : NumberParts :=
  let longer := 10 * parts.significand + digit
  if parts.full || UInt64.size ≤ longer then { parts with full := true }
  else { parts with significand := longer, scale := parts.scale - 1 }

/-- The number may end in this phase. -/
def NumberPhase.complete : NumberPhase → Bool
  | .zero | .whole | .fraction | .exponent => true
  | _ => false

/-- The next phase and parts of a number after a character that continues it. -/
def numberStep (phase : NumberPhase) (parts : NumberParts) (c : Char) :
    Option (NumberPhase × NumberParts) :=
  match phase with
  | .sign =>
    if c = '0' then some (.zero, parts)
    else if isDigit c then some (.whole, parts.addWhole (digitValue c)) else none
  | .zero | .whole =>
    if phase = .whole ∧ isDigit c then some (.whole, parts.addWhole (digitValue c))
    else if c = '.' then some (.point, { parts with isInteger := false, full := false })
    else if c = 'e' ∨ c = 'E' then some (.mark, { parts with isInteger := false })
    else none
  | .point | .fraction =>
    if isDigit c then some (.fraction, parts.addFraction (digitValue c))
    else if phase = .fraction ∧ (c = 'e' ∨ c = 'E') then some (.mark, parts)
    else none
  | .mark | .markSign | .exponent =>
    if isDigit c then
      some (.exponent, { parts with exponent := 10 * parts.exponent + digitValue c })
    else if phase = .mark ∧ c = '+' then some (.markSign, parts)
    else if phase = .mark ∧ c = '-' then some (.markSign, { parts with exponentNegative := true })
    else none

/-- A string cut off by a problem. If a lone surrogate came first, a reader stops there. -/
def brokenString (lone : Bool) (error : JsonError) : List Token :=
  let reading := if lone then .malformed else error
  [.quoted (.broken ⟨reading, error, reading⟩)]

/-- The character of a one-letter escape. -/
def simpleEscape? (c : Char) : Option Char :=
  match c with
  | '"' => some '"'
  | '\\' => some '\\'
  | '/' => some '/'
  | 'b' => some '\x08'
  | 'f' => some '\x0c'
  | 'n' => some '\n'
  | 'r' => some '\r'
  | 't' => some '\t'
  | _ => none

/-- The code is the first half of a surrogate pair. -/
def isHighSurrogate (code : Nat) : Bool :=
  0xD800 ≤ code && code ≤ 0xDBFF

/-- The code is the second half of a surrogate pair. -/
def isLowSurrogate (code : Nat) : Bool :=
  0xDC00 ≤ code && code ≤ 0xDFFF

/-- The state after a complete four-digit escape. -/
def finishHex (reversed : List Char) (lone : Bool) (code : Nat) (high : Option Nat) : LexState :=
  match high with
  | none =>
    if isHighSurrogate code then .string reversed lone (.afterHigh code)
    else if isLowSurrogate code then .string reversed true .none
    else .string (Char.ofNat code :: reversed) lone .none
  | some first =>
    if isLowSurrogate code then
      let combined := 0x10000 + (first - 0xD800) * 0x400 + (code - 0xDC00)
      .string (Char.ofNat combined :: reversed) lone .none
    else .string reversed true .none

/-- One character outside of literals, numbers and strings: the next state, or the token it is, or
nothing if no token begins with it. -/
def beginToken (c : Char) : Option (List Token × LexState) :=
  if c = ' ' ∨ c = '\n' ∨ c = '\t' ∨ c = '\r' then some ([], .between)
  else match c with
  | '[' => some ([.openArray], .between)
  | ']' => some ([.closeArray], .between)
  | '{' => some ([.openObject], .between)
  | '}' => some ([.closeObject], .between)
  | ',' => some ([.comma], .between)
  | ':' => some ([.colon], .between)
  | '"' => some ([], .string [] false .none)
  | 'n' => some ([], .word ['u', 'l', 'l'] .null)
  | 't' => some ([], .word ['r', 'u', 'e'] (.bool true))
  | 'f' => some ([], .word ['a', 'l', 's', 'e'] (.bool false))
  | '-' => some ([], .number .sign { negative := true })
  | '0' => some ([], .number .zero { })
  | c => if isDigit c then some ([], .number .whole { significand := digitValue c }) else none

/-- What a character of a string leads to: the end of the string, a problem, or the next state. -/
inductive StringStep where
  | finished (draft : Draft)
  | problem (lone : Bool)
  | continue (state : LexState)

/-- One character of a string that belongs to no escape. -/
def plainStep (reversed : List Char) (lone : Bool) (c : Char) : StringStep :=
  if c = '"' then
    .finished (if lone then .unreadable else .string (String.ofList reversed.reverse))
  else if c = '\\' then .continue (.string reversed lone .backslash)
  else if c.toNat < 0x20 then .problem lone
  else .continue (.string (c :: reversed) lone .none)

/-- One character after a backslash. -/
def backslashStep (reversed : List Char) (lone : Bool) (c : Char) : StringStep :=
  if c = 'u' then .continue (.string reversed lone (.hex 0 0 none))
  else match simpleEscape? c with
  | some escaped => .continue (.string (escaped :: reversed) lone .none)
  | none => .problem lone

/-- One character of a string. A high surrogate that no escape of a low one follows is alone. -/
def stringStep (reversed : List Char) (lone : Bool) (escape : EscapePhase) (c : Char) :
    StringStep :=
  match escape with
  | .none => plainStep reversed lone c
  | .backslash => backslashStep reversed lone c
  | .hex count value high =>
    match hexValue? c with
    | some digit =>
      if count = 3 then .continue (finishHex reversed lone (16 * value + digit) high)
      else .continue (.string reversed lone (.hex (count + 1) (16 * value + digit) high))
    | none =>
      if 4 ≤ count + c.utf8Size then .problem lone
      else .continue (.string reversed lone (.badHex (count + c.utf8Size)))
  | .badHex bytes =>
    if 4 ≤ bytes + c.utf8Size then .problem lone
    else .continue (.string reversed lone (.badHex (bytes + c.utf8Size)))
  | .afterHigh high =>
    if c = '\\' then .continue (.string reversed lone (.afterHighBackslash high))
    else plainStep reversed true c
  | .afterHighBackslash high =>
    if c = 'u' then .continue (.string reversed lone (.hex 0 0 (some high)))
    else backslashStep reversed true c

/-- The fault of a character with which no token begins or continues. -/
def malformedToken : Token :=
  .bare (.broken (.plain .malformed))

/-- The tokens of a text from a state on. -/
def tokensFrom : LexState → List Char → List Token
  | .between, [] => []
  | .word _ _, [] => [.bare (.broken (.plain .endOfText))]
  | .number phase parts, [] =>
    if phase.complete then [.bare parts.draft]
    else [.bare (.broken ⟨.endOfText, .malformed, .endOfText⟩)]
  | .string _ lone _, [] => brokenString lone .endOfText
  | .between, c :: rest =>
    match beginToken c with
    | some (tokens, state) => tokens ++ tokensFrom state rest
    | none => [malformedToken]
  | .word missing value, c :: rest =>
    match missing with
    | [] => [malformedToken]
    | letter :: missing =>
      if c = letter then
        if missing = [] then .bare value :: tokensFrom .between rest
        else tokensFrom (.word missing value) rest
      else [malformedToken]
  | .number phase parts, c :: rest =>
    match numberStep phase parts c with
    | some (phase, parts) => tokensFrom (.number phase parts) rest
    | none =>
      if phase.complete ∧ ¬ (phase = .zero ∧ isDigit c) then
        .bare parts.draft ::
          (match beginToken c with
          | some (tokens, state) => tokens ++ tokensFrom state rest
          | none => [malformedToken])
      else [malformedToken]
  | .string reversed lone escape, c :: rest =>
    match stringStep reversed lone escape c with
    | .finished draft => .quoted draft :: tokensFrom .between rest
    | .problem lone => brokenString lone .malformed
    | .continue state => tokensFrom state rest

/-- The tokens of a text. -/
def tokens (text : List Char) : List Token :=
  tokensFrom .between text

end StatsBoard.Json
