import StatsBoard.Text.Composition
import StatsBoard.Text.Folding
import StatsBoard.Text.Letter
import StatsBoard.Text.Quoted
import StatsBoard.Text.Split
import StatsBoard.Url.Charset
import StatsBoard.Url.Punycode

/-!
# Domains

The ASCII form of a domain. Its characters are folded and composed first; then each label with
characters beyond ASCII is written with ASCII characters after a mark. A label that bears the mark
already has to be one that would be written so.
-/

namespace StatsBoard.Domain

open Text

/-- The mark of a label that is written with ASCII characters. -/
def mark : List Char := ['x', 'n', '-', '-']

/-- The characters of a domain in the form in which they are compared. -/
def normalize (cs : List Char) : List Char :=
  compose (cs.flatMap fun c => if c.toNat < 128 then [lowerAscii c] else foldChar c)

/-- Marks that take the vowel from a letter; only after one of them may letters be joined or kept
apart by a character that shows nothing of its own. -/
def vowelKillers : List Nat :=
  [0x94d, 0x9cd, 0xa4d, 0xacd, 0xb4d, 0xbcd, 0xc4d, 0xccd, 0xd3b, 0xd3c, 0xd4d, 0xdca, 0xe3a,
    0xeba, 0xf84, 0x1039, 0x103a, 0x1714, 0x1715, 0x1734, 0x17d2, 0x1a60, 0x1b44, 0x1baa, 0x1bab,
    0x1bf2, 0x1bf3, 0x2d7f, 0xa806, 0xa82c, 0xa8c4, 0xa953, 0xa9c0, 0xaaf6, 0xabed, 0x10a3f]

/-- The character joins letters or keeps them apart. -/
def isJoiner (c : Char) : Bool :=
  c.toNat == 0x200c || c.toNat == 0x200d

/-- No character of a label shows nothing of its own, joiners in their place excepted. -/
def allVisible : Char → List Char → Bool
  | _, [] => true
  | previous, c :: rest =>
    (if isJoiner c then vowelKillers.contains previous.toNat
      else c.toNat < 128 || !isUnprintable c) && allVisible c rest

/-- The label may stand in a domain. -/
def isLabel (label : List Char) : Bool :=
  !(label.head?.any isExtending) && allVisible '.' label

/-- The label is not in ASCII. -/
def isWide (label : List Char) : Bool :=
  label.any (128 ≤ ·.toNat)

/-- The ASCII form of a label. -/
def labelToAscii? (label : List Char) : Option (List Char) :=
  if mark.isPrefixOf label then do
    let decoded ← Punycode.decode? (label.drop mark.length)
    if isWide decoded && isLabel decoded && normalize decoded == decoded then some label else none
  else if isWide label then
    if isLabel label then some (mark ++ Punycode.encode label) else none
  else some label

/-- The ASCII form of a domain. -/
def toAscii? (domain : List Char) : Option (List Char) := do
  let labels ← (split (· == '.') (normalize domain)).mapM labelToAscii?
  let ascii := ['.'].intercalate labels
  if ascii.any Url.isForbiddenInDomain then none else some ascii

end StatsBoard.Domain
