import StatsBoard.Text.Blank
import StatsBoard.Text.Letter
import StatsBoard.Text.Numeral

/-!
# Colors

The colors of a screen: sixteen named ones, those of a palette of 256, and mixtures of red, green
and blue. A text names a color by its name, its place in the palette, or its mixture.
-/

namespace StatsBoard

/-- A color of the screen. -/
inductive Color where
  /-- The color that the screen has of itself. -/
  | reset
  | black
  | red
  | green
  | yellow
  | blue
  | magenta
  | cyan
  | gray
  | darkGray
  | lightRed
  | lightGreen
  | lightYellow
  | lightBlue
  | lightMagenta
  | lightCyan
  | white
  | indexed (index : Nat)
  | rgb (red green blue : Nat)
deriving DecidableEq, Repr

namespace Color

open Text

/-- The named colors. -/
def named : List (Color × String) :=
  [(reset, "Reset"), (black, "Black"), (red, "Red"), (green, "Green"), (yellow, "Yellow"),
    (blue, "Blue"), (magenta, "Magenta"), (cyan, "Cyan"), (gray, "Gray"), (darkGray, "DarkGray"),
    (lightRed, "LightRed"), (lightGreen, "LightGreen"), (lightYellow, "LightYellow"),
    (lightBlue, "LightBlue"), (lightMagenta, "LightMagenta"), (lightCyan, "LightCyan"),
    (white, "White")]

/-- A text with every occurrence of a pattern replaced, from left to right. `skip` characters of
the pattern just replaced are still to be passed. -/
def replaceFrom (pattern replacement : List Char) : Nat → List Char → List Char
  | _, [] => []
  | skip + 1, _ :: rest => replaceFrom pattern replacement skip rest
  | 0, c :: rest =>
    if pattern ≠ [] ∧ pattern.isPrefixOf (c :: rest) then
      replacement ++ replaceFrom pattern replacement (pattern.length - 1) rest
    else c :: replaceFrom pattern replacement 0 rest

/-- Other words for the names of colors, and what they become, in this order. -/
def synonyms : List (String × String) :=
  [("bright", "light"), ("grey", "gray"), ("silver", "gray"), ("lightblack", "darkgray"),
    ("lightwhite", "white"), ("lightgray", "white")]

/-- A small letter; the sign for the unit of temperature is a capital `K`. -/
def smallLetter (c : Char) : Char :=
  if c.toNat = 0x212a then 'k' else lowerAscii c

/-- A text in the form in which it names a color. -/
def normalName (cs : List Char) : String :=
  let bare := (cs.map smallLetter).filter fun c => !(c == ' ' || c == '-' || c == '_')
  String.ofList (synonyms.foldl (fun cs (word, replacement) =>
    replaceFrom word.toList replacement.toList 0 cs) bare)

/-- The color with a name. -/
def ofName? (cs : List Char) : Option Color :=
  let name := normalName cs
  (named.find? fun (_, known) => toLowerAscii known == name).map (·.1)

/-- Digits after an optional plus sign. -/
def afterPlus : List Char → List Char
  | '+' :: rest => rest
  | cs => cs

/-- A place in the palette, in decimal digits. -/
def index? (cs : List Char) : Option Nat :=
  let digits := afterPlus cs
  if digits ≠ [] ∧ digits.all isDigit ∧ digitsValue 0 digits ≤ 255 then
    some (digitsValue 0 digits)
  else none

/-- A share of a mixture, in at most two hexadecimal digits. -/
def share? (cs : List Char) : Option Nat :=
  let digits := afterPlus cs
  if digits = [] then none
  else
    digits.foldlM (fun value c => do
      let digit ← hexValue? c
      return 16 * value + digit) 0

/-- The mixture that six digits after a sharp sign write. -/
def mixture? : List Char → Option Color
  | ['#', a, b, c, d, e, f] => do
    return rgb (← share? [a, b]) (← share? [c, d]) (← share? [e, f])
  | _ => none

/-- The color that a text names, up to blanks around it. -/
def parse? (text : String) : Option Color :=
  let cs := trimChars text.toList
  ((ofName? cs).or ((index? cs).map indexed)).or (mixture? cs)

/-- The color that a text names, or white. -/
def parseOrWhite (text : String) : Color :=
  (parse? text).getD white

end Color

end StatsBoard
