/-!
# Letters

The letters of ASCII, and text with its capital letters made small.
-/

namespace StatsBoard.Text

/-- The character is an ASCII letter. -/
def isLetter (c : Char) : Bool :=
  ('a' ≤ c && c ≤ 'z') || ('A' ≤ c && c ≤ 'Z')

/-- An ASCII capital letter as the small one; every other character unchanged. -/
def lowerAscii (c : Char) : Char :=
  if 'A' ≤ c && c ≤ 'Z' then Char.ofNat (c.toNat + 32) else c

/-- The text with ASCII capital letters made small. -/
def toLowerAscii (s : String) : String :=
  String.ofList (s.toList.map lowerAscii)

end StatsBoard.Text
