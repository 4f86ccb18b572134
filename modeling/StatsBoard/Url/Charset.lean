import StatsBoard.Text.Letter
import StatsBoard.Text.Percent

/-!
# Characters of addresses

Which characters may not stand for themselves in each part of an address.
-/

namespace StatsBoard.Url

/-- The character may stand in a scheme. -/
def isSchemeChar (c : Char) : Bool :=
  Text.isLetter c || Text.isDigit c || c == '+' || c == '-' || c == '.'

/-- A control character, or one beyond ASCII. -/
def isControl (c : Char) : Bool :=
  c.toNat < 0x20 || 0x7f ≤ c.toNat

/-- The character is encoded in a fragment. -/
def inFragment (c : Char) : Bool :=
  isControl c || " \"<>`".toList.contains c

/-- The character is encoded in a path. -/
def inPath (c : Char) : Bool :=
  inFragment c || "#?\x7b\x7d".toList.contains c

/-- The character is encoded in a segment that is added to a path. `special` says that the scheme
of the address is one of those in which a backslash is a slash. -/
def inSegment (special : Bool) (c : Char) : Bool :=
  inPath c || c == '/' || c == '%' || (special && c == '\\')

/-- The character is encoded in a user's name or password. -/
def inUserinfo (c : Char) : Bool :=
  inPath c || "/:;=@[\\]^|".toList.contains c

/-- The character is encoded in a query. -/
def inQuery (special : Bool) (c : Char) : Bool :=
  isControl c || " \"#<>".toList.contains c || (special && c == '\'')

/-- Tabs and line ends, which are dropped wherever they stand in an address. -/
def isDropped (c : Char) : Bool :=
  c == '\t' || c == '\n' || c == '\r'

/-- The character may not stand in a domain. -/
def isForbiddenInDomain (c : Char) : Bool :=
  c.toNat ≤ 0x20 || c.toNat == 0x7f || "#/:<>?@[\\]^|%".toList.contains c

/-- The character may not stand in a host of which nothing more is known. -/
def isForbiddenInHost (c : Char) : Bool :=
  c.toNat == 0 || isDropped c || " #/:<>?@[\\]^|".toList.contains c

end StatsBoard.Url
