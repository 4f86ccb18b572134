import StatsBoard.Stream.Fault
import StatsBoard.Text.Letter
import StatsBoard.Text.Percent
import StatsBoard.Text.Split
import StatsBoard.Url.Charset

/-!
# Addresses of streams

The address of a stream is a URI. Unlike an endpoint it is not brought into a normal form: it is
either used as it is written, or refused.
-/

namespace StatsBoard

/-- The parts of a URI on which it depends who is asked. -/
structure StreamAddress where
  scheme : Option String
  /-- Who is asked: the text between the scheme and the path. -/
  authority : Option String
deriving DecidableEq, Repr

namespace StreamAddress

open Text

/-- The character may stand in an authority, apart from percent signs. -/
def isAuthorityCharacter (c : Char) : Bool :=
  isLetter c || isDigit c || "!$&'()*+,-.:;=@[]_~".toList.contains c

/-- The character may stand in a path. -/
def isPathCharacter (c : Char) : Bool :=
  '!' ≤ c && c != '#' && c != '<' && c != '>' && c != '?' && c != '\x60'

/-- The character may stand in a query. -/
def isQueryCharacter (c : Char) : Bool :=
  '!' ≤ c && c != '"' && c != '#' && c != '<' && c != '>'

/-- The character ends an authority. -/
def endsAuthority (c : Char) : Bool :=
  c == '/' || c == '?' || c == '#'

/-- The scheme before a colon and two slashes, and what follows them. -/
def splitScheme (cs : List Char) : Option String × List Char :=
  match cs.dropWhile Url.isSchemeChar with
  | ':' :: '/' :: '/' :: rest => (some (String.ofList (cs.takeWhile Url.isSchemeChar)), rest)
  | _ => (none, cs)

/-- What has been seen of an authority. -/
structure AuthorityState where
  /-- The colons that may stand before a number. -/
  colons : Nat := 0
  opened : Bool := false
  closed : Bool := false
  percent : Bool := false
  /-- The last character was an at sign. -/
  named : Bool := false

namespace AuthorityState

/-- Read one character. Colons and percent signs before an at sign or inside brackets are part of
a name and are forgotten. -/
def step? (state : AuthorityState) (c : Char) : Option AuthorityState :=
  let state := { state with named := c == '@' }
  if c = ':' then
    if 8 ≤ state.colons then none else some { state with colons := state.colons + 1 }
  else if c = '[' then
    if state.percent || state.opened then none else some { state with opened := true }
  else if c = ']' then
    if !state.opened || state.closed then none
    else some { state with closed := true, colons := 0, percent := false }
  else if c = '@' then some { state with colons := 0, percent := false }
  else if c = '%' then some { state with percent := true }
  else if isAuthorityCharacter c then some state
  else none

/-- What has been read can be an authority: brackets are in pairs, one colon at most stands before
a number, and somebody is named. -/
def accepts (state : AuthorityState) : Bool :=
  state.opened == state.closed && state.colons ≤ 1 && !state.percent && !state.named

end AuthorityState

/-- The characters can be an authority. -/
def isAuthority (cs : List Char) : Bool :=
  match cs.foldlM AuthorityState.step? { } with
  | some state => state.accepts
  | none => false

/-- The characters are a path and perhaps a query; what follows a number sign does not matter. -/
def isPathAndQuery (cs : List Char) : Bool :=
  let (path, query) := cut (· == '?') (cs.takeWhile (· != '#'))
  path.all isPathCharacter && ((query.map (·.all isQueryCharacter)).getD true)

/-- The most bytes that an address may have. -/
def longest : Nat := 65534

/-- The most characters that a scheme may have. -/
def longestScheme : Nat := 64

/-- The parts of an address. A text without a scheme is either a path or an authority alone. -/
def parse? (text : String) : Option StreamAddress :=
  let cs := text.toList
  let (scheme, rest) := splitScheme cs
  let authority := rest.takeWhile (!endsAuthority ·)
  let path := rest.dropWhile (!endsAuthority ·)
  if longest < (utf8 cs).length ∨ cs = [] then none
  else if cs = ['*'] then some ⟨none, none⟩
  else if cs.head? = some '/' then if isPathAndQuery cs then some ⟨none, none⟩ else none
  else if !isAuthority authority then none
  else
    match scheme with
    | none => if path = [] then some ⟨none, some text⟩ else none
    | some name =>
      if longestScheme < name.length ∨ authority = [] ∨ !isPathAndQuery path then none
      else some ⟨some name, some (String.ofList authority)⟩

/-- The schemes under which a server can be reached. -/
def schemes : List String := ["ws", "wss", "http", "https"]

/-- Whether a server can be asked for under an address. -/
def check (address : StreamAddress) : Except StreamFault Unit :=
  match address.authority, address.scheme with
  | none, _ => .error (.address .noHost)
  | some _, none => .error (.address .badScheme)
  | some _, some scheme =>
    if schemes.contains (toLowerAscii scheme) then .ok () else .error (.address .badScheme)

/-- The fault of a text as an address. -/
def fault? (text : String) : Option StreamFault :=
  match parse? text with
  | none => some .malformedAddress
  | some address =>
    match address.check with
    | .error fault => some fault
    | .ok () => none

/-- How the attempt to open a stream ends when nobody answers. -/
def unanswered (text : String) : TransportError :=
  ((fault? text).getD (.io "Connection refused (os error 111)")).failure

end StreamAddress

end StatsBoard
