/-!
# Splitting

Text cut at every separator, and text joined again.
-/

namespace StatsBoard.Text

/-- The pieces between separators; there is one more of them than there are separators. -/
def split (isSeparator : Char → Bool) : List Char → List (List Char)
  | [] => [[]]
  | c :: rest =>
    if isSeparator c then [] :: split isSeparator rest
    else
      match split isSeparator rest with
      | [] => [[c]]
      | piece :: pieces => (c :: piece) :: pieces

/-- The text before the first separator, and the text after it if there is one. -/
def cut (isSeparator : Char → Bool) (cs : List Char) : List Char × Option (List Char) :=
  match cs.dropWhile (!isSeparator ·) with
  | [] => (cs, none)
  | _ :: rest => (cs.takeWhile (!isSeparator ·), some rest)

end StatsBoard.Text
