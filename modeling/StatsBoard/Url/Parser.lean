import StatsBoard.Url.Host

/-!
# Reading addresses

An address begins with a scheme. What follows is cut at the first sharp sign and the first question
mark, then into the host with what belongs to it and the path; schemes that have a host find it
after any number of slashes, others only after two. Segments that are dots are resolved while the
path is read.
-/

namespace StatsBoard

namespace UrlPath

open Text

/-- A segment with the encoded points in it decoded, in small letters. -/
def plainDots : List Char → List Char
  | '%' :: '2' :: e :: rest => if lowerAscii e = 'e' then '.' :: plainDots rest
    else '%' :: plainDots ('2' :: e :: rest)
  | c :: rest => c :: plainDots rest
  | [] => []

/-- The segment stands for the directory itself. -/
def isHere (segment : List Char) : Bool :=
  plainDots segment == ['.']

/-- The segment stands for the directory above. -/
def isAbove (segment : List Char) : Bool :=
  plainDots segment == ['.', '.']

/-- The text begins with the letter of a drive and its mark. -/
def beginsWithDrive : List Char → Bool
  | letter :: mark :: _ =>
    isLetter letter && (mark == ':' || mark == '|')
  | _ => false

/-- The text is the letter of a drive and its mark. -/
def isDrive (text : List Char) : Bool :=
  beginsWithDrive text && text.length == 2

/-- A path without its last segment; the drive of a local file stays. -/
def above (isFile : Bool) (segments : List String) : List String :=
  match segments with
  | [drive] => if isFile && isDrive drive.toList && drive.toList.contains ':' then [drive] else []
  | segments => segments.dropLast

/-- A path with one more segment. A last segment that is dots leaves an empty one. -/
def place (isFile isLast : Bool) (segments : List String) (segment : List Char) : List String :=
  if isAbove segment then
    above isFile segments ++ (if isLast then [""] else [])
  else if isHere segment then
    segments ++ (if isLast then [""] else [])
  else if isFile && segments.isEmpty && isDrive segment then
    [String.ofList (segment.take 1 ++ [':'])]
  else segments ++ [String.ofList segment]

/-- Segments put one by one at the end of a path. -/
def placeAll (isFile : Bool) : List String → List (List Char) → List String
  | segments, [] => segments
  | segments, [last] => place isFile true segments last
  | segments, segment :: rest => placeAll isFile (place isFile false segments segment) rest

/-- The segments of the path of a local file: empty ones at the front are dropped, and the letter
of a drive is a segment of its own. -/
def fileSegments (raw : List (List Char)) : List (List Char) :=
  match raw.dropWhile (· == []) with
  | [] => [[]]
  | first :: rest =>
    if beginsWithDrive first && 2 < first.length then first.take 2 :: first.drop 2 :: rest
    else first :: rest

/-- The path that a text after its first slash writes. -/
def ofText (special isFile : Bool) (text : List Char) : UrlPath :=
  let raw := (split (fun c => c == '/' || (special && c == '\\')) text).map
    (percentEncode Url.inPath)
  let segments := placeAll isFile [] (if isFile then fileSegments raw else raw)
  rooted (if isFile && 1 < segments.length then
    (match segments.dropWhile (· == "") with
      | [] => [""]
      | kept => kept)
    else segments)

end UrlPath

namespace Url

open Text

/-- The parts of an address before the path. -/
structure Authority where
  username : String := ""
  password : String := ""
  host : Option Host := none
  port : Option Nat := none

/-- The scheme of a text, in small letters, and the text after the colon. -/
def scheme? (text : List Char) : Option (String × List Char) :=
  match text.head?, text.dropWhile isSchemeChar with
  | some first, ':' :: rest =>
    if isLetter first then
      some (String.ofList ((text.takeWhile isSchemeChar).map lowerAscii), rest)
    else none
  | _, _ => none

/-- The text before the last at sign and the text after it. -/
def cutAtLastAt (text : List Char) : Option (List Char) × List Char :=
  let host := (text.reverse.takeWhile (· != '@')).reverse
  if text.contains '@' then (some (text.take (text.length - host.length - 1)), host)
  else (none, text)

/-- The user's name and password. -/
def userinfo (text : List Char) : String × String :=
  let (name, password) := cut (· == ':') text
  let encode (part : List Char) := String.ofList (percentEncode inUserinfo part)
  (encode name, encode (password.getD []))

/-- The host of a text and the text after it, which begins with the colon of the port if there is
one; colons in brackets belong to the host. -/
def cutAtPort : Bool → List Char → List Char × List Char
  | _, [] => ([], [])
  | inBrackets, c :: rest =>
    if c = ':' ∧ !inBrackets then ([], c :: rest)
    else
      let (host, port) := cutAtPort (c == '[' || (inBrackets && c != ']')) rest
      (c :: host, port)

/-- The port that a text after the host writes, and what follows it in the text. -/
def port? (scheme : String) : List Char → Except UrlError (Option Nat × List Char)
  | ':' :: text => do
    let digits := text.takeWhile isDigit
    let rest := text.dropWhile isDigit
    let port := digitsValue 0 digits
    if 65535 < port then .error .badPort
    else if rest ≠ [] ∧ rest.head? ≠ some '\\' then .error .badPort
    else if digits = [] ∨ defaultPort? scheme = some port then return (none, rest)
    else return (some port, rest)
  | rest => .ok (none, rest)

/-- The parts that a text between two slashes and a path writes, and what of the text belongs to
the path. `followed` says that more text comes after it. -/
def authority? (scheme : String) (followed : Bool) (text : List Char) :
    Except UrlError (Authority × List Char) := do
  let (user, hostText) := cutAtLastAt text
  if user = some [] ∧ hostText = [] ∧ followed then .error .emptyHost
  else
    let (username, password) := userinfo (user.getD [])
    let (host, portText) := cutAtPort false hostText
    if host = [] ∧ (isSpecial scheme ∨ portText ≠ []) then .error .emptyHost
    else
      let host ← if isSpecial scheme then Host.ofSpecial host else Host.ofOther host
      let (port, rest) ← port? scheme portText
      if host = .domain "" ∧ (username ≠ "" ∨ password ≠ "") then .error .emptyHost
      else return (⟨username, password, some host, port⟩, rest)

/-- A slash, or a backslash that is one. -/
def isSlash (special : Bool) (c : Char) : Bool :=
  c == '/' || (special && c == '\\')

/-- The path after a host. -/
def pathAfterHost (special : Bool) (text : List Char) : UrlPath :=
  match text with
  | [] => .rooted (if special then [""] else [])
  | c :: rest =>
    if isSlash special c then .ofText special false rest else .ofText special false (c :: rest)

/-- An address whose host comes first in a text. -/
def withHost (scheme : String) (followed : Bool) (text : List Char) : Except UrlError Url := do
  let special := isSpecial scheme
  let authority := text.takeWhile (!isSlash special ·)
  let path := text.dropWhile (!isSlash special ·)
  let (parts, rest) ← authority? scheme (followed || path != []) authority
  return {
    scheme := scheme
    username := parts.username
    password := parts.password
    host := parts.host
    port := parts.port
    path := pathAfterHost special (rest ++ path) }

/-- The address of a local file. A host that is the own machine is no host, and neither is one
before a drive. -/
def ofFile (text : List Char) : Except UrlError Url := do
  match text with
  | a :: b :: rest =>
    if isSlash true a && isSlash true b then
      let hostText := rest.takeWhile (!isSlash true ·)
      let path := rest.dropWhile (!isSlash true ·)
      if hostText = [] ∨ UrlPath.isDrive hostText then
        return { scheme := fileScheme, path := .ofText true true rest }
      else
        let host ← Host.ofSpecial hostText
        let segments := UrlPath.ofText true true (path.drop 1)
        let hasDrive := match segments with
          | .rooted (first :: _) => UrlPath.isDrive first.toList
          | _ => false
        return {
          scheme := fileScheme
          host := if host = .domain "localhost" || hasDrive then none else some host
          path := segments }
    else return { scheme := fileScheme, path := .ofText true true text }
  | text => return { scheme := fileScheme, path := .ofText true true text }

/-- An address from its scheme and the text up to its query. -/
def ofParts (scheme : String) (followed : Bool) (text : List Char) : Except UrlError Url :=
  if scheme = fileScheme then ofFile text
  else if isSpecial scheme then withHost scheme followed (text.dropWhile (isSlash true))
  else
    match text with
    | '/' :: '/' :: rest => withHost scheme followed rest
    | '/' :: rest => .ok { scheme := scheme, path := .ofText false false rest }
    | text =>
      .ok { scheme := scheme, path := .rootless (String.ofList (percentEncode isControl text)) }

/-- The text without blanks and control characters at its ends, and without tabs and line ends. -/
def clean (text : List Char) : List Char :=
  let outside (c : Char) : Bool := c.toNat ≤ 0x20
  ((text.dropWhile outside).reverse.dropWhile outside).reverse.filter (!isDropped ·)

/-- The address that a text writes. -/
def parse (text : String) : Except UrlError Url := do
  match scheme? (clean text.toList) with
  | none => .error .relative
  | some (scheme, rest) =>
    let (rest, fragment) := cut (· == '#') rest
    let (rest, query) := cut (· == '?') rest
    let url ← ofParts scheme (query.isSome || fragment.isSome) rest
    let encode (escapes : Char → Bool) (part : List Char) :=
      String.ofList (percentEncode escapes part)
    return { url with
      query := query.map (encode (inQuery (isSpecial scheme)))
      fragment := fragment.map (encode inFragment) }

end Url

end StatsBoard
