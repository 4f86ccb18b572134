import StatsBoard.Text.Numeral

/-!
# Addresses

An address in its parts. The text of every part but the host is kept as it is written, with its
characters encoded; what the parts are together is said by `Url.text`.
-/

namespace StatsBoard

/-- Why a text is no address. -/
inductive UrlError where
  /-- It does not begin with a scheme. -/
  | relative
  | emptyHost
  | badDomain
  | badPort
  | badIpv4
  | badIpv6
  | badHostCharacter
deriving DecidableEq, Repr

namespace UrlError

/-- What is said of a text that is no address. -/
def message : UrlError → String
  | relative => "relative URL without a base"
  | emptyHost => "empty host"
  | badDomain => "invalid international domain name"
  | badPort => "invalid port number"
  | badIpv4 => "invalid IPv4 address"
  | badIpv6 => "invalid IPv6 address"
  | badHostCharacter => "invalid domain character"

end UrlError

/-- The host of an address. -/
inductive Host where
  /-- A name. -/
  | domain (name : String)
  /-- The number of 32 bits that is the address. -/
  | ipv4 (address : Nat)
  /-- Eight pieces of 16 bits. -/
  | ipv6 (pieces : List Nat)
deriving DecidableEq, Repr

/-- The path of an address. -/
inductive UrlPath where
  /-- A path that is no list of segments and cannot be changed. -/
  | rootless (text : String)
  /-- Segments, each after a slash. -/
  | rooted (segments : List String)
deriving DecidableEq, Repr

/-- An address. -/
structure Url where
  scheme : String
  username : String := ""
  password : String := ""
  host : Option Host := none
  port : Option Nat := none
  path : UrlPath
  query : Option String := none
  fragment : Option String := none
deriving DecidableEq, Repr

namespace Host

/-- The four numbers of an address of 32 bits. -/
def ipv4Text (address : Nat) : String :=
  ".".intercalate ([24, 16, 8, 0].map fun shift => Text.natNumeral ((address >>> shift) % 256))

/-- The length of the run of zeros at the front. -/
def zeroRun (pieces : List Nat) : Nat :=
  (pieces.takeWhile (· == 0)).length

/-- The first of the longest runs of zeros: where it begins, and its length. -/
def longestZeroRun : Nat → List Nat → Nat × Nat
  | position, [] => (position, 0)
  | position, piece :: pieces =>
    let here := zeroRun (piece :: pieces)
    let later := longestZeroRun (position + 1) pieces
    if later.2 ≤ here then (position, here) else later

/-- Pieces as hexadecimal numerals with colons between them. -/
def piecesText (pieces : List Nat) : String :=
  ":".intercalate (pieces.map fun piece => String.ofList (Nat.toDigits 16 piece))

/-- Eight pieces; two colons stand for the first of the longest runs of two or more zeros. -/
def ipv6Text (pieces : List Nat) : String :=
  let (start, length) := longestZeroRun 0 pieces
  if length < 2 then piecesText pieces
  else piecesText (pieces.take start) ++ "::" ++ piecesText (pieces.drop (start + length))

/-- The text of a host. -/
def text : Host → String
  | domain name => name
  | ipv4 address => ipv4Text address
  | ipv6 pieces => "[" ++ ipv6Text pieces ++ "]"

end Host

namespace UrlPath

/-- The text of a path. -/
def text : UrlPath → String
  | rootless text => text
  | rooted segments => String.join (segments.map ("/" ++ ·))

/-- The path is a list of segments. -/
def isRooted : UrlPath → Bool
  | rootless _ => false
  | rooted _ => true

end UrlPath

namespace Url

/-- The schemes that have a host, with the port that goes without saying. -/
def schemePorts : List (String × Nat) :=
  [("http", 80), ("https", 443), ("ws", 80), ("wss", 443), ("ftp", 21)]

/-- The port of a scheme that goes without saying. -/
def defaultPort? (scheme : String) : Option Nat :=
  (schemePorts.find? (·.1 == scheme)).map (·.2)

/-- The scheme of local files. -/
def fileScheme : String := "file"

/-- The scheme is one of those in which a backslash is a slash. -/
def isSpecial (scheme : String) : Bool :=
  scheme == fileScheme || (defaultPort? scheme).isSome

/-- The name and password of the user, as they stand before the host. -/
def credentials (url : Url) : String :=
  if url.username = "" ∧ url.password = "" then ""
  else if url.password = "" then url.username ++ "@"
  else url.username ++ ":" ++ url.password ++ "@"

/-- The host with all that stands before and after it. Where there is none, a path that begins with
two slashes is kept from being taken for one. -/
def authority (url : Url) : String :=
  match url.host with
  | some host =>
    "//" ++ url.credentials ++ host.text
      ++ ((url.port.map fun port => ":" ++ Text.natNumeral port).getD "")
  | none =>
    if url.scheme = fileScheme then "//"
    else
      match url.path with
      | .rooted ("" :: _ :: _) => "/."
      | _ => ""

/-- The text of an address. -/
def text (url : Url) : String :=
  url.scheme ++ ":" ++ url.authority ++ url.path.text ++ ((url.query.map ("?" ++ ·)).getD "")
    ++ ((url.fragment.map ("#" ++ ·)).getD "")

/-- The port under which the host is reached. -/
def effectivePort (url : Url) : Option Nat :=
  url.port.or (defaultPort? url.scheme)

end Url

end StatsBoard
