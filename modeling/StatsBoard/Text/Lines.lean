/-!
# Lines

The lines of a text, without their ends. A line ends with a line feed, and a carriage return right
before it belongs to the end.
-/

namespace StatsBoard.Text

/-- A line without a carriage return at its end. -/
def withoutReturn (line : List Char) : List Char :=
  if line.getLast? = some '\r' then line.dropLast else line

/-- The lines of a text, given the one that is being read, in reverse. -/
def linesFrom : List Char → List Char → List (List Char)
  | [], [] => []
  | reversed, [] => [reversed.reverse]
  | reversed, c :: rest =>
    if c = '\n' then withoutReturn reversed.reverse :: linesFrom [] rest
    else linesFrom (c :: reversed) rest

/-- The lines of a text. -/
def lines (text : List Char) : List (List Char) :=
  linesFrom [] text

end StatsBoard.Text
