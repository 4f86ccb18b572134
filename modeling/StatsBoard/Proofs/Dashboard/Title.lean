import Mathlib.Data.List.Basic
import StatsBoard.Dashboard.Title

/-!
# Names that are cut in the middle

A name is shown as it is where it fits. A longer one fills its room exactly: it keeps a beginning
and an end that do not overlap, with three dots for what is left out between them
(`Title.truncated_keeps_ends`).
-/

namespace StatsBoard.Title

variable {s : String} {limit : Nat}

/-- How many characters of the beginning are kept: half of the room that the dots leave. -/
def frontLength (limit : Nat) : Nat :=
  (limit - 3) / 2

/-- How many characters of the end are kept: the rest of the room. -/
def backLength (limit : Nat) : Nat :=
  limit - 3 - frontLength limit

/-- The place from which on the end is kept. -/
def backStart (s : String) (limit : Nat) : Nat :=
  s.toList.length - backLength limit

/-- The beginning that is kept. -/
def front (s : String) (limit : Nat) : String :=
  String.ofList (s.toList.take (frontLength limit))

/-- What is left out. -/
def middle (s : String) (limit : Nat) : String :=
  String.ofList ((s.toList.take (backStart s limit)).drop (frontLength limit))

/-- The end that is kept. -/
def back (s : String) (limit : Nat) : String :=
  String.ofList (s.toList.drop (backStart s limit))

/-! ## Beginning and end -/

theorem back_length_eq (limit : Nat) :
    backLength limit = frontLength limit ∨ backLength limit = frontLength limit + 1 := by
  rw [backLength, frontLength]
  omega

theorem length_front (h : limit < s.length) : (front s limit).length = frontLength limit := by
  rw [front, String.length_ofList, List.length_take, String.length_toList, frontLength]
  omega

theorem length_back (h : limit < s.length) : (back s limit).length = backLength limit := by
  rw [back, String.length_ofList, List.length_drop, backStart, String.length_toList, backLength]
  omega

/-- The beginning that is kept is over where the end begins. -/
theorem front_length_le_back_start (h : limit < s.length) :
    frontLength limit ≤ backStart s limit := by
  rw [backStart, String.length_toList, backLength, frontLength]
  omega

/-- What is kept and what is left out are the whole text. -/
theorem front_middle_back (h : limit < s.length) :
    front s limit ++ middle s limit ++ back s limit = s := by
  have hfront : s.toList.take (frontLength limit) =
      (s.toList.take (backStart s limit)).take (frontLength limit) := by
    rw [List.take_take, Nat.min_eq_left (front_length_le_back_start h)]
  rw [front, middle, back, ← String.ofList_append, ← String.ofList_append, hfront,
    List.take_append_drop, List.take_append_drop, String.ofList_toList]

/-! ## Texts that are shown -/

theorem not_fits (h : limit < s.length) : ¬s.toList.length ≤ limit := by
  rw [String.length_toList]
  exact Nat.not_le_of_lt h

theorem truncate_middle_of_fits (h : s.length ≤ limit) : truncateMiddle s limit = s :=
  if_pos (String.length_toList ▸ h)

/-- Where there is no room for more than the dots, there are only dots. -/
theorem truncate_middle_of_small (hlong : limit < s.length) (hlimit : limit ≤ 3) :
    truncateMiddle s limit = String.ofList (List.replicate limit '.') :=
  (if_neg (not_fits hlong)).trans (if_pos hlimit)

theorem truncate_middle_of_long (hlong : limit < s.length) (hlimit : 3 < limit) :
    truncateMiddle s limit = front s limit ++ "..." ++ back s limit := by
  have hshown : truncateMiddle s limit = String.ofList (s.toList.take (frontLength limit)
      ++ "...".toList ++ s.toList.drop (backStart s limit)) :=
    (if_neg (not_fits hlong)).trans (if_neg (Nat.not_le_of_lt hlimit))
  rw [hshown, String.ofList_append, String.ofList_append, String.ofList_toList, front, back]

/-- A text is cut to the room that there is, and never filled up. -/
theorem length_truncate_middle (s : String) (limit : Nat) :
    (truncateMiddle s limit).length = min s.length limit := by
  rcases Nat.lt_or_ge limit s.length with hlong | hfits
  · rw [Nat.min_eq_right (Nat.le_of_lt hlong)]
    rcases Nat.lt_or_ge 3 limit with hlimit | hsmall
    · have hdots : "...".length = 3 := by decide
      rw [truncate_middle_of_long hlong hlimit, String.length_append, String.length_append, hdots,
        length_front hlong, length_back hlong, backLength, frontLength]
      omega
    · rw [truncate_middle_of_small hlong hsmall, String.length_ofList, List.length_replicate]
  · rw [truncate_middle_of_fits hfits, Nat.min_eq_left hfits]

/-- Whatever the text and the room for it: as many characters are shown as the text has and as there
is room for. A text that fits is shown as it is. One that does not, with room for more than the
dots, is cut into three parts, and the middle one is replaced by the dots; the end is as long as the
beginning or one character longer. -/
theorem truncated_keeps_ends (s : String) (limit : Nat) :
    (truncateMiddle s limit).length = min s.length limit ∧
    (s.length ≤ limit → truncateMiddle s limit = s) ∧
    (limit < s.length → 3 < limit → ∃ front middle back : String,
      s = front ++ middle ++ back ∧ truncateMiddle s limit = front ++ "..." ++ back ∧
      (back.length = front.length ∨ back.length = front.length + 1)) := by
  refine ⟨length_truncate_middle s limit, truncate_middle_of_fits, fun hlong hlimit => ?_⟩
  refine ⟨front s limit, middle s limit, back s limit, (front_middle_back hlong).symm,
    truncate_middle_of_long hlong hlimit, ?_⟩
  rw [length_front hlong, length_back hlong]
  exact back_length_eq limit

/-- A name of twenty-two characters is cut to the twelve that there is room for, and keeps its
ends. -/
theorem truncated_keeps_ends_odd_room :
    12 < "very-long-watcher-name".length ∧ 3 < 12 ∧
    (truncateMiddle "very-long-watcher-name" 12).length = 12 ∧
    ∃ front middle back : String, "very-long-watcher-name" = front ++ middle ++ back ∧
      truncateMiddle "very-long-watcher-name" 12 = front ++ "..." ++ back ∧
      (back.length = front.length ∨ back.length = front.length + 1) := by
  obtain ⟨hlength, -, hends⟩ := truncated_keeps_ends "very-long-watcher-name" 12
  exact ⟨by decide, by decide, hlength, hends (by decide) (by decide)⟩

end StatsBoard.Title
