import StatsBoard.Text.Numeral

/-!
# Titles

A name that is too long for its panel keeps its beginning and its end. The title of the dashboard
says where its samples come from and how many entities there are.
-/

namespace StatsBoard.Title

/-- A text cut in the middle to at most `limit` characters. -/
def truncateMiddle (s : String) (limit : Nat) : String :=
  let cs := s.toList
  if cs.length ≤ limit then s
  else if limit ≤ 3 then String.ofList (List.replicate limit '.')
  else
    let left := (limit - 3) / 2
    let right := limit - 3 - left
    String.ofList (cs.take left ++ "...".toList ++ cs.drop (cs.length - right))

/-- The title of the dashboard. -/
def header (endpoint mode : String) (entities : Nat) : String :=
  "watchdash — " ++ endpoint ++ " [" ++ mode ++ "] "
    ++ (if entities = 0 then "waiting for data... (press 'q' to quit)"
      else "| " ++ Text.natNumeral entities ++ " entities  (press 'q' to quit)")

end StatsBoard.Title
