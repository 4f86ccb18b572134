import StatsBoard.Url.Parser

/-!
# Changing addresses

Addresses are changed by adding segments to the path and pairs to the query, and by changing the
scheme.
-/

namespace StatsBoard

namespace UrlPath

/-- The path without an empty last segment; a path keeps its first segment. -/
def trimEmpty : UrlPath → UrlPath
  | rooted (first :: second :: rest) =>
    let segments := first :: second :: rest
    rooted (if segments.getLast? = some "" then segments.dropLast else segments)
  | path => path

/-- The path with one more segment. A segment of one or two points is left out; others are encoded,
without the tabs and line ends in them. -/
def push (scheme : String) (path : UrlPath) (segment : String) : UrlPath :=
  match path with
  | rootless text => rootless text
  | rooted segments =>
    if segment = "." ∨ segment = ".." then rooted segments
    else
      let kept := segment.toList.filter (!Url.isDropped ·)
      rooted (place (scheme == Url.fileScheme) true (if segments = [""] then [] else segments)
        (Text.percentEncode (Url.inSegment (Url.isSpecial scheme)) kept))

end UrlPath

namespace Url

/-- The address with segments added to its path; an empty segment at its end is dropped first. -/
def appendSegments (url : Url) (segments : List String) : Url :=
  { url with path := segments.foldl (UrlPath.push url.scheme) url.path.trimEmpty }

/-- The address with pairs added to its query. Their names and values have to be such that they
stand for themselves. -/
def appendPairs (url : Url) (pairs : List (String × String)) : Url :=
  let added := pairs.map fun (name, value) => name ++ "=" ++ value
  let kept := (url.query.filter (· != "")).toList
  { url with query := some ("&".intercalate (kept ++ added)) }

/-- The address with another scheme. Schemes that have a host do not give way to others, nor the
other way round, and an address without a host cannot get one. -/
def withScheme? (url : Url) (scheme : String) : Option Url :=
  if isSpecial scheme ≠ isSpecial url.scheme then none
  else if isSpecial scheme && url.host.isNone then none
  else
    some { url with
      scheme := scheme
      port := if url.port = defaultPort? scheme then none else url.port }

end Url

end StatsBoard
