import Mathlib.Data.List.Induction
import StatsBoard.Proofs.Percent
import StatsBoard.Proofs.Text
import StatsBoard.Url.Edit

/-!
# Segments of paths

The path of an address that has a host is a list of segments without slashes, so its text tells
where each segment begins and ends (`UrlPath.chars_inj`). What is added to a path is one more
segment at its end, unless only dots are left of it (`UrlPath.push_eq`).
-/

namespace StatsBoard.UrlPath

open Text

variable {segments others : List String} {piece cs : List Char} {pieces : List (List Char)}
variable {special isLast : Bool}

/-! ## The text of a path -/

/-- The characters of a path: each segment after a slash. -/
def chars (segments : List String) : List Char :=
  segments.flatMap fun segment => '/' :: segment.toList

/-- No segment holds a slash. -/
def Slashless (segments : List String) : Prop :=
  ∀ segment ∈ segments, '/' ∉ segment.toList

theorem to_list_text : (rooted segments).text.toList = chars segments := by
  simp [text, chars, String.toList_join, List.flatMap_map]

@[simp]
theorem chars_append : chars (segments ++ others) = chars segments ++ chars others :=
  List.flatMap_append

@[simp]
theorem chars_singleton (segment : String) : chars [segment] = '/' :: segment.toList := by
  rw [chars, List.flatMap_singleton]

theorem Slashless.append (h : Slashless segments) (hothers : Slashless others) :
    Slashless (segments ++ others) :=
  List.forall_mem_append.mpr ⟨h, hothers⟩

/-- The text of a path is cut into its segments. -/
theorem split_chars (h : Slashless segments) :
    split (· == '/') (chars segments) = [] :: segments.map (·.toList) := by
  induction segments using List.reverseRecOn with
  | nil => rfl
  | append_singleton segments last ih =>
      obtain ⟨hsegments, hlast⟩ := List.forall_mem_append.mp h
      have hslash : ∀ c ∈ last.toList, (c == '/') = false := fun c hc =>
        beq_eq_false_iff_ne.mpr fun hslash =>
          hlast last (List.mem_singleton_self last) (hslash ▸ hc)
      have hcut : split (· == '/') (chars segments ++ '/' :: last.toList) =
          split (· == '/') (chars segments) ++ split (· == '/') last.toList :=
        split_append rfl
      rw [chars_append, chars_singleton, hcut, ih hsegments, split_of_not hslash, List.map_append,
        List.cons_append]
      rfl

/-- The text of a path determines its segments. -/
theorem chars_inj (h : Slashless segments) (hothers : Slashless others)
    (heq : chars segments = chars others) : segments = others := by
  have hmap : segments.map (·.toList) = others.map (·.toList) := by
    apply List.tail_eq_of_cons_eq
    rw [← split_chars h, heq, split_chars hothers]
  exact List.map_injective_iff.mpr (fun _ _ => String.toList_inj.mp) hmap

/-! ## Segments of dots -/

theorem lower_ascii_eq_e {c : Char} (h : lowerAscii c = 'e') : c = 'e' ∨ c = 'E' := by
  rw [lowerAscii] at h
  split at h
  · next hcapital =>
    have hcode : ∀ n < 91, Char.ofNat (n + 32) = 'e' → n = 69 := by decide
    simp only [Bool.and_eq_true, decide_eq_true_eq, Char.le_def, UInt32.le_iff_toNat_le] at hcapital
    exact Or.inr (Char.toNat_inj.mp (hcode c.toNat (Nat.lt_succ_of_le hcapital.2) h))
  · exact Or.inl h

/-- What reads as dots is decoded as these dots. -/
theorem percent_decode_of_plain_dots (h : ∀ c ∈ plainDots piece, c = '.') :
    percentDecode piece = utf8 (plainDots piece) := by
  induction piece using plainDots.induct with
  | case1 e rest he ih =>
      rw [plainDots, if_pos he] at h ⊢
      rw [utf8_cons, ← ih fun c hc => h c (List.mem_cons_of_mem _ hc)]
      obtain rfl | rfl := lower_ascii_eq_e he
      · rfl
      · rfl
  | case2 e rest he ih =>
      rw [plainDots, if_neg he] at h
      exact absurd (h '%' List.mem_cons_self) (by decide)
  | case3 c rest hc ih =>
      rw [plainDots.eq_2 c rest hc] at h ⊢
      obtain rfl := h c List.mem_cons_self
      rw [utf8_cons, ← ih fun c hc => h c (List.mem_cons_of_mem _ hc),
        percent_decode_cons (by decide)]
  | case4 => rfl

/-- An encoded segment reads as dots only if it was these dots before. -/
theorem eq_of_plain_dots_percent_encode {dots : List Char} (hdots : ∀ c ∈ dots, c = '.')
    (h : plainDots (percentEncode (Url.inSegment special) cs) = dots) : cs = dots := by
  subst h
  have hdecode := percent_decode_of_plain_dots hdots
  rw [percent_decode_percent_encode rfl] at hdecode
  exact utf8_inj hdecode

theorem is_here_percent_encode :
    isHere (percentEncode (Url.inSegment special) cs) ↔ cs = ['.'] := by
  rw [isHere, beq_iff_eq]
  constructor
  · exact eq_of_plain_dots_percent_encode (by simp)
  · rintro rfl
    cases special
    · rfl
    · rfl

theorem is_above_percent_encode :
    isAbove (percentEncode (Url.inSegment special) cs) ↔ cs = ['.', '.'] := by
  rw [isAbove, beq_iff_eq]
  constructor
  · exact eq_of_plain_dots_percent_encode (by simp)
  · rintro rfl
    cases special
    · rfl
    · rfl

/-! ## Putting segments at the end of a path -/

theorem above_eq_drop_last : above false segments = segments.dropLast := by
  unfold above
  split
  · rfl
  · rfl

/-- Where a segment of no local file is put, in the three cases. -/
theorem place_eq : place false isLast segments piece =
    if isAbove piece then segments.dropLast ++ (if isLast then [""] else [])
    else if isHere piece then segments ++ (if isLast then [""] else [])
    else segments ++ [String.ofList piece] := by
  rw [place, above_eq_drop_last, Bool.false_and, Bool.false_and, if_neg Bool.false_ne_true]

theorem slashless_place (h : Slashless segments) (hpiece : '/' ∉ piece) :
    Slashless (place false isLast segments piece) := by
  have hend : Slashless (if isLast then [""] else []) := by
    cases isLast <;> simp [Slashless]
  rw [place_eq]
  split
  · have hfront : Slashless segments.dropLast := fun segment hsegment =>
      h segment (List.dropLast_subset _ hsegment)
    exact hfront.append hend
  · split
    · exact h.append hend
    · refine h.append ?_
      simpa [Slashless] using hpiece

/-- Putting a last segment leaves no path without segments. -/
theorem place_ne_nil : place false true segments piece ≠ [] := by
  rw [place_eq]
  split
  · simp
  · split
    · simp
    · simp

theorem slashless_place_all (h : Slashless segments) (hpieces : ∀ piece ∈ pieces, '/' ∉ piece) :
    Slashless (placeAll false segments pieces) := by
  induction segments, pieces using placeAll.induct false with
  | case1 segments => exact h
  | case2 segments last => exact slashless_place h (hpieces last (List.mem_singleton_self last))
  | case3 segments piece rest hrest ih =>
      obtain ⟨hpiece, hpieces⟩ := List.forall_mem_cons.mp hpieces
      rw [placeAll]
      · exact ih (slashless_place h hpiece) hpieces
      · exact hrest

theorem place_all_ne_nil (hpieces : pieces ≠ []) : placeAll false segments pieces ≠ [] := by
  induction segments, pieces using placeAll.induct false with
  | case1 segments => exact absurd rfl hpieces
  | case2 segments last => exact place_ne_nil
  | case3 segments piece rest hrest ih =>
      rw [placeAll]
      · exact ih hrest
      · exact hrest

/-- What is read after the first slash of a path. -/
theorem of_text_eq_rooted (special : Bool) (written : List Char) :
    ∃ segments, ofText special false written = rooted segments ∧ segments ≠ [] ∧
      Slashless segments := by
  refine ⟨_, rfl, ?_, ?_⟩
  · exact place_all_ne_nil (by simp [split_ne_nil])
  · refine slashless_place_all (fun _ h => absurd h List.not_mem_nil) fun piece hpiece hslash => ?_
    obtain ⟨raw, hraw, rfl⟩ := List.mem_map.mp hpiece
    obtain ⟨hslash, -⟩ | hhex := mem_percent_encode hslash
    · exact absurd (not_separator_of_mem_split hraw hslash) (by simp)
    · exact absurd hhex (by decide)

/-! ## Adding segments -/

/-- The segments to which one is added: the root alone has none. -/
def opened (segments : List String) : List String :=
  if segments = [""] then [] else segments

/-- The segments of a path to which others are added, without an empty one at the end. -/
def stem (segments : List String) : List String :=
  opened (if segments.getLast? = some "" then segments.dropLast else segments)

/-- What is left of a segment that is added, before it is encoded. -/
def kept (segment : String) : List Char :=
  segment.toList.filter (!Url.isDropped ·)

/-- A segment as it is written in the path of a special scheme. -/
def encoded (segment : String) : String :=
  String.ofList (percentEncode (Url.inSegment true) (kept segment))

/-- The segment is added as it is. -/
def Stands (segment : String) : Prop :=
  encoded segment = segment ∧ kept segment ≠ ['.'] ∧ kept segment ≠ ['.', '.']

instance (segment : String) : Decidable (Stands segment) :=
  inferInstanceAs (Decidable (_ ∧ _))

/-- The name can be a segment of a path: it is not one or two points, and nothing of it is
dropped. -/
def IsSegment (name : String) : Prop :=
  name ≠ "." ∧ name ≠ ".." ∧ ∀ c ∈ name.toList, Url.isDropped c = false

theorem kept_eq_to_list_iff {name : String} :
    kept name = name.toList ↔ ∀ c ∈ name.toList, Url.isDropped c = false := by
  simp [kept, List.filter_eq_self]

instance (name : String) : Decidable (IsSegment name) :=
  decidable_of_iff (name ≠ "." ∧ name ≠ ".." ∧ kept name = name.toList)
    (by rw [IsSegment, kept_eq_to_list_iff])

theorem IsSegment.kept_eq {name : String} (h : IsSegment name) : kept name = name.toList :=
  kept_eq_to_list_iff.mpr h.2.2

/-- A segment is read as what was kept of it. -/
theorem decode_encoded (name : String) :
    ofUtf8? (percentDecode (encoded name).toList) = some (String.ofList (kept name)) := by
  rw [encoded, String.toList_ofList, percent_decode_percent_encode rfl, of_utf8_utf8]

theorem encoded_inj {first second : String} (h : encoded first = encoded second) :
    kept first = kept second :=
  percent_encode_inj rfl (String.ofList_injective h)

/-- Characters that are encoded do not occur in segments that are added. -/
theorem not_mem_encoded {c : Char} (hc : Url.inSegment true c)
    (hhex : c ∉ "%0123456789ABCDEF".toList) (name : String) : c ∉ (encoded name).toList := by
  rw [encoded, String.toList_ofList]
  intro hmem
  obtain ⟨-, hplain⟩ | hmem := mem_percent_encode hmem
  · rw [hc] at hplain
    cases hplain
  · exact hhex hmem

theorem opened_concat {last : String} (h : last ≠ "") :
    opened (segments ++ [last]) = segments ++ [last] := by
  refine if_neg fun hroot => h ?_
  simpa using congrArg List.getLast? hroot

theorem stem_concat (last : String) : stem (segments ++ [last]) =
    if last = "" then opened segments else segments ++ [last] := by
  by_cases hlast : last = ""
  · rw [stem, if_pos (hlast ▸ List.getLast?_concat), List.dropLast_concat, if_pos hlast]
  · have hend : (segments ++ [last]).getLast? ≠ some "" := by simpa using hlast
    rw [stem, if_neg hend, if_neg hlast, opened_concat hlast]

theorem trim_empty_eq_rooted (segments : List String) :
    ∃ trimmed, trimEmpty (rooted segments) = rooted trimmed ∧ opened trimmed = stem segments := by
  match segments with
  | [] => exact ⟨[], rfl, rfl⟩
  | [first] =>
    refine ⟨[first], rfl, ?_⟩
    rw [stem, opened, opened]
    by_cases hfirst : first = ""
    · subst hfirst
      rfl
    · simp [hfirst]
  | first :: second :: rest => exact ⟨_, rfl, rfl⟩

/-- The text of a path without a slash at its end. -/
def withoutLastSlash (path : List Char) : List Char :=
  if path.getLast? = some '/' then path.dropLast else path

/-- Without its empty last segment a path is without its last slash, unless it is two slashes. -/
theorem chars_stem (h : Slashless segments) (hne : segments ≠ []) (hroot : segments ≠ ["", ""]) :
    chars (stem segments) = withoutLastSlash (chars segments) := by
  obtain ⟨front, last, rfl⟩ := (List.eq_nil_or_concat' segments).resolve_left hne
  rw [stem_concat, withoutLastSlash, chars_append, chars_singleton]
  by_cases hlast : last = ""
  · have hfront : front ≠ [""] := fun hfront => hroot (by rw [hfront, hlast]; rfl)
    rw [if_pos hlast, hlast, opened, if_neg hfront, String.toList_empty, List.getLast?_concat,
      if_pos rfl, List.dropLast_concat]
  · have hchars : last.toList ≠ [] := fun hnil => hlast (String.toList_eq_nil_iff.mp hnil)
    obtain ⟨body, c, hbody⟩ := (List.eq_nil_or_concat' last.toList).resolve_left hchars
    have hc : c ≠ '/' := by
      rintro rfl
      refine h last (List.mem_append_right _ (List.mem_singleton_self last)) ?_
      exact hbody ▸ List.mem_append_right _ (List.mem_singleton_self '/')
    have hend : (chars front ++ '/' :: last.toList).getLast? = some c := by
      rw [hbody, ← List.cons_append, ← List.append_assoc, List.getLast?_concat]
    rw [if_neg hlast, hend, if_neg fun heq => hc (Option.some.inj heq), chars_append,
      chars_singleton]

/-- What stands before the last slash of a path is kept when segments are added, and so is that
slash unless the path is two slashes. -/
theorem prefix_chars_stem_append {front : List String} {last : String} (hothers : others ≠ []) :
    chars front <+: chars (stem (front ++ [last]) ++ others) ∧
      (front ++ [last] ≠ ["", ""] →
        chars front ++ ['/'] <+: chars (stem (front ++ [last]) ++ others)) := by
  obtain ⟨next, others, rfl⟩ := List.exists_cons_of_ne_nil hothers
  have hslash (hroot : front ++ [last] ≠ ["", ""]) :
      chars front ++ ['/'] <+: chars (stem (front ++ [last]) ++ next :: others) := by
    rw [chars_append, stem_concat]
    by_cases hlast : last = ""
    · have hfront : front ≠ [""] := fun hfront => hroot (by rw [hfront, hlast]; rfl)
      rw [if_pos hlast, opened, if_neg hfront]
      exact ⟨next.toList ++ chars others, by simp [chars]⟩
    · rw [if_neg hlast]
      exact ⟨last.toList ++ chars (next :: others), by simp⟩
  refine ⟨?_, hslash⟩
  by_cases hroot : front ++ [last] = ["", ""]
  · obtain ⟨rfl, hlast⟩ := List.append_inj' (show front ++ [last] = [""] ++ [""] from hroot) rfl
    obtain rfl := List.singleton_inj.mp hlast
    exact ⟨next.toList ++ chars others, rfl⟩
  · exact (List.prefix_append _ _).trans (hslash hroot)

section Push

variable {scheme segment : String} (hspecial : Url.isSpecial scheme)
  (hfile : scheme ≠ Url.fileScheme)

include hspecial hfile

/-- A path with a segment added, in the cases there are. -/
theorem push_eq : push scheme (rooted segments) segment = rooted (
    if segment = "." ∨ segment = ".." then segments
    else if kept segment = ['.', '.'] then (opened segments).dropLast ++ [""]
    else if kept segment = ['.'] then opened segments ++ [""]
    else opened segments ++ [encoded segment]) := by
  have hfile : (scheme == Url.fileScheme) = false := beq_eq_false_iff_ne.mpr hfile
  rw [push, hspecial, hfile]
  by_cases hdots : segment = "." ∨ segment = ".."
  · rw [if_pos hdots, if_pos hdots]
  · rw [if_neg hdots, if_neg hdots]
    show rooted (place false true (opened segments)
      (percentEncode (Url.inSegment true) (kept segment))) = _
    simp only [place_eq, is_above_percent_encode, is_here_percent_encode, if_true, encoded]

theorem Stands.push (h : Stands segment) :
    push scheme (rooted segments) segment = rooted (opened segments ++ [segment]) := by
  have hdots : ¬ (segment = "." ∨ segment = "..") := by
    rintro (rfl | rfl)
    · exact h.2.1 rfl
    · exact h.2.2 rfl
  rw [push_eq hspecial hfile, if_neg hdots, if_neg h.2.2, if_neg h.2.1, h.1]

end Push

end StatsBoard.UrlPath
