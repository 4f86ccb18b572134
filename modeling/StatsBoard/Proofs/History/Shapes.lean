import StatsBoard.History.Response
import StatsBoard.Proofs.Json.Decoding
import StatsBoard.Proofs.Json.Documents

/-!
# The shapes of answers

An answer is read as the first shape that fits its whole value. What fits is decided by the document
as it is written, with all repeated keys: an array, an object with nothing but a list under `info`,
or any other object (`shapes_told_apart`).
-/

namespace StatsBoard

open Json

namespace Decoder

variable {α : Type} {shape : Decoder α} {shapes : List (Decoder α)} {room : Nat} {draft : Draft}

/-! ## Shapes that are tried in order -/

/-- A value of the first shape. -/
theorem untagged_of_ok {value : Json} {a : α} (hvalue : Json.decoder room draft = .ok value)
    (h : shape room draft = .ok a) : untagged (shape :: shapes) room draft = .ok a := by
  rw [untagged, hvalue, ok_bind, List.findSome?_cons, h]
  rfl

/-- A value that has another shape than the first. -/
theorem untagged_of_error {error : JsonError} (h : shape room draft = .error error) :
    untagged (shape :: shapes) room draft = untagged shapes room draft := by
  rw [untagged, untagged, List.findSome?_cons, h]
  rfl

/-! ## Lists and maps of any values -/

theorem items_decoder (drafts : List Draft) :
    items (Json.decoder room) drafts = ofDraftItems room drafts := by
  induction drafts with
  | nil => rfl
  | cons draft drafts ih => rw [items, ofDraftItems, ih, Json.decoder]

theorem entries_decoder (done : Members Json) (drafts : List (Draft × Draft)) :
    entries some (Json.decoder room) Members.put done drafts = ofDraftMembers room done drafts := by
  induction drafts generalizing done with
  | nil => rfl
  | cons draft drafts ih =>
      rw [entries, ofDraftMembers]
      simp only [ih]
      rfl

/-- An array is read as the list of the values that its items say. -/
theorem list_document {items : List Json} (h : (Json.array items).depth ≤ room) :
    list Json.decoder room (Json.array items).toDraft = .ok (items.map resolved) := by
  rw [depth] at h
  cases room with
  | zero => cases h
  | succ room =>
      rw [toDraft, list, enter, items_decoder, of_draft_document_items,
        if_pos (Nat.le_of_succ_le_succ h), resolved_items_eq_map]
      rfl

/-- An object is read as the map that it says. -/
theorem map_document {members : Members Json} (h : (Json.object members).depth ≤ room) :
    map some Json.decoder [] Members.put room (Json.object members).toDraft =
      .ok (Members.resolved (resolvedMembers members)) := by
  rw [depth] at h
  cases room with
  | zero => cases h
  | succ room =>
      rw [toDraft, map, enter, entries_decoder, of_draft_document_members,
        if_pos (Nat.le_of_succ_le_succ h), Members.foldl_put]
      rfl

end Decoder

namespace StatsResponse

open Decoder

variable {room : Nat} {items : List Json} {members : Members Json} {written : Json}

/-! ## Each shape -/

/-- No field is named otherwise. -/
theorem find_info_of_ne {key : String} (h : key ≠ "info") :
    [infoField].find? (·.name == key) = none := by
  rw [List.find?_cons_of_neg (by simpa [infoField, Field.mandatory] using h.symm), List.find?_nil]

/-- Nothing may follow the list under `info`. -/
theorem record_members_after_info (member : String × Json) (rest : Members Json)
    (values : List Json) :
    recordMembers (fun _ => .error .mismatch) [infoField] room ["info"] values
      (memberDrafts (member :: rest)) = .error .mismatch := by
  obtain ⟨key, value⟩ := member
  rw [memberDrafts]
  by_cases hkey : key = "info"
  · subst hkey
    exact record_members_of_seen rfl List.mem_cons_self
  · rw [record_members_of_unknown (find_info_of_ne hkey)]
    rfl

/-- A list under the only key `info` is read as that list. -/
theorem closed_record_info (h : (Json.object [("info", .array items)]).depth ≤ room) :
    closedRecord [infoField] [] room (Json.object [("info", .array items)]).toDraft =
      .ok (items.map resolved) := by
  cases room with
  | zero => cases h
  | succ room =>
      have hlist : list Json.decoder room (Json.array items).toDraft = .ok (items.map resolved) :=
        list_document (by simpa [depth, memberDepth] using h)
      have hmembers : recordMembers (fun _ => .error .mismatch) [infoField] room [] []
          (memberDrafts [("info", .array items)]) = .ok (["info"], items.map resolved) := by
        rw [memberDrafts, record_members_of_new rfl List.not_mem_nil]
        show (list Json.decoder room _).map _ >>= _ = _
        rw [hlist]
        rfl
      unfold closedRecord recordWith
      simp only [toDraft, enter, hmembers]
      rfl

/-- The members of any other object are refused, or the list is missing. -/
theorem record_members_of_ne {values : List Json} {seen : List String}
    (h : ∀ items, members ≠ [("info", .array items)])
    (hread : recordMembers (fun _ => .error .mismatch) [infoField] room [] []
      (memberDrafts members) = .ok (seen, values)) : members = [] := by
  cases members with
  | nil => rfl
  | cons member rest =>
      obtain ⟨key, value⟩ := member
      rw [memberDrafts] at hread
      by_cases hkey : key = "info"
      · subst hkey
        rw [record_members_of_new rfl List.not_mem_nil] at hread
        obtain ⟨next, hnext, hrest⟩ := bind_eq_ok_iff.mp hread
        cases rest with
        | cons second rest =>
            rw [record_members_after_info] at hrest
            cases hrest
        | nil =>
            cases value with
            | array items => exact absurd rfl (h items)
            | _ => cases hnext
      · rw [record_members_of_unknown (find_info_of_ne hkey)] at hread
        cases hread

/-- An object with anything else is no list under `info`. -/
theorem closed_record_of_ne (h : ∀ items, members ≠ [("info", .array items)]) :
    ∃ error, closedRecord [infoField] [] room (Json.object members).toDraft = .error error := by
  cases hread : closedRecord [infoField] [] room (Json.object members).toDraft with
  | error error => exact ⟨error, rfl⟩
  | ok values =>
      cases room with
      | zero => cases hread
      | succ room =>
          obtain ⟨⟨seen, values'⟩, hmembers, hend⟩ := bind_eq_ok_iff.mp hread
          obtain rfl := record_members_of_ne h hmembers
          cases hread

/-! ## All shapes -/

/-- An array is an answer for the requested entity. -/
theorem decoder_array (h : (Json.array items).depth ≤ room) :
    decoder room (Json.array items).toDraft = .ok (.samples (items.map resolved)) := by
  have hvalue := of_draft_document (.array items) room
  rw [if_pos h] at hvalue
  refine untagged_of_ok hvalue ?_
  rw [list_document h]
  rfl

/-- A list under the only key `info` is an answer for the requested entity. -/
theorem decoder_info (h : (Json.object [("info", .array items)]).depth ≤ room) :
    decoder room (Json.object [("info", .array items)]).toDraft =
      .ok (.info (items.map resolved)) := by
  have hvalue := of_draft_document (.object [("info", .array items)]) room
  rw [if_pos h] at hvalue
  have hlist : list Json.decoder room (Json.object [("info", .array items)]).toDraft =
      .error .mismatch := rfl
  refine (untagged_of_error (congrArg _ hlist)).trans (untagged_of_ok hvalue ?_)
  rw [closed_record_info h]
  rfl

/-- Any other object is an answer with samples per key. -/
theorem decoder_object (h : (Json.object members).depth ≤ room)
    (hinfo : ∀ items, members ≠ [("info", .array items)]) :
    decoder room (Json.object members).toDraft =
      .ok (.keyed (Members.resolved (resolvedMembers members))) := by
  have hvalue := of_draft_document (.object members) room
  rw [if_pos h] at hvalue
  have hlist : list Json.decoder room (Json.object members).toDraft = .error .mismatch := rfl
  obtain ⟨error, hclosed⟩ := @closed_record_of_ne room members hinfo
  refine (untagged_of_error (congrArg _ hlist)).trans ?_
  refine (untagged_of_error (congrArg _ hclosed)).trans (untagged_of_ok hvalue ?_)
  rw [map_document h]
  rfl

/-- A value that is no container is no answer. -/
theorem decoder_of_bare (harray : ∀ items, written ≠ .array items)
    (hobject : ∀ members, written ≠ .object members) :
    decoder room written.toDraft = .error .mismatch := by
  cases written with
  | array items => exact absurd rfl (harray items)
  | object members => exact absurd rfl (hobject members)
  | null | bool | number | string => rfl

/-- Every text that is a JSON document is written in one way, and its answer is told by that. An
array is a list of its items. An object whose only member is an array under `info` is the list of
the items of that. Any other object gives each key its last value, at the position of its first. A
value that is no container is refused. -/
theorem shapes_told_apart {text : String} {value : Json} (h : Json.parse text = .ok value) :
    ∃ written : Json, Writes text written ∧ value = written.resolved ∧
      (∀ items, written = .array items →
        decode text = .ok (.samples (items.map resolved))) ∧
      (∀ items, written = .object [("info", .array items)] →
        decode text = .ok (.info (items.map resolved))) ∧
      (∀ members, written = .object members → (∀ items, members ≠ [("info", .array items)]) →
        ∃ keyed, decode text = .ok (.keyed keyed) ∧
          keyed.map (·.1) = (members.map (·.1)).eraseDups ∧
          ∀ key, keyed.get? key = (Members.get? members.reverse key).map resolved) ∧
      ((∀ items, written ≠ .array items) → (∀ members, written ≠ .object members) →
        decode text = .error .mismatch) := by
  obtain ⟨written, hwrites, hdepth, hvalue⟩ := exists_writes_of_parse h
  have hdecode : decode text = decoder maxDepth written.toDraft := hwrites.read_eq
  refine ⟨written, hwrites, hvalue, ?array, ?info, ?object, ?bare⟩
  case array =>
    rintro items rfl
    exact hdecode.trans (decoder_array hdepth)
  case info =>
    rintro items rfl
    exact hdecode.trans (decoder_info hdepth)
  case object =>
    rintro members rfl hinfo
    refine ⟨_, hdecode.trans (decoder_object hdepth hinfo), ?keys, ?values⟩
    case keys =>
      rw [Members.map_fst_resolved, resolved_members_eq_map, List.map_map]
      rfl
    case values =>
      intro key
      rw [Members.get?_resolved, resolved_members_eq_map, ← List.map_reverse, Members.get?_map]
  case bare =>
    intro harray hobject
    exact hdecode.trans (decoder_of_bare harray hobject)

/-- A document in which `info` is repeated, around an object that repeats a key of its own. -/
def infoTwice : Json :=
  .object [("info", .array [.number (.integer 1)]),
    ("a", .object [("b", .null), ("b", .bool true)]), ("info", .array [])]

/-- Where `info` is repeated, there is a last value for each key. -/
theorem shapes_told_apart_info_twice :
    infoTwice.compact = "\x7b\"info\":[1],\"a\":\x7b\"b\":null,\"b\":true\x7d,\"info\":[]\x7d" ∧
    ∃ keyed, decode infoTwice.compact = .ok (.keyed keyed) ∧
      keyed.map (·.1) = ["info", "a"] ∧ keyed.get? "info" = some (.array []) ∧
      keyed.get? "a" = some (.object [("b", .bool true)]) := by
  have hwrites : Writes infoTwice.compact infoTwice :=
    draft_compact (List.forall_mem_singleton.mpr (reads_back_integer rfl))
  have hparse : Json.parse infoTwice.compact = .ok infoTwice.resolved :=
    hwrites.read_eq.trans ((of_draft_document infoTwice _).trans (if_pos (by decide)))
  obtain ⟨written, hwritten, -, -, -, hkeyed, -⟩ := shapes_told_apart hparse
  obtain rfl := hwritten.unique hwrites
  obtain ⟨keyed, hdecode, hkeys, hvalues⟩ := hkeyed _ rfl (by simp)
  refine ⟨by decide +kernel, keyed, hdecode, hkeys.trans (by decide), ?_, ?_⟩
  · exact (hvalues "info").trans (by decide)
  · exact (hvalues "a").trans (by decide)

end StatsResponse

end StatsBoard
