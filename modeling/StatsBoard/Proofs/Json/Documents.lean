import StatsBoard.Proofs.FirstOccurrences
import StatsBoard.Proofs.Json.Printing
import StatsBoard.Proofs.Success

/-!
# Documents as they are written

A document is written as a value in which objects may repeat keys. Every draft that can be read is
that of one document (`exists_document`, `to_draft_inj`), and it is read as what the document says:
of several values for one key the last, at the position of the first (`of_draft_document`).
-/

namespace StatsBoard

/-! ## Repeated keys -/

namespace Members

variable {α : Type} {members : Members α} {key : String} {value : α}

theorem get?_cons (first : String × α) :
    get? (first :: members) key = if first.1 = key then some first.2 else get? members key := by
  rw [get?, List.find?_cons]
  by_cases hkey : first.1 = key
  · rw [if_pos hkey, beq_iff_eq.mpr hkey, Option.map_some]
  · rw [if_neg hkey, beq_eq_false_iff_ne.mpr hkey, get?]

theorem get?_map {β : Type} (change : α → β) :
    get? (members.map fun member => (member.1, change member.2)) key =
      (get? members key).map change := by
  induction members with
  | nil => rfl
  | cons first members ih =>
      rw [List.map_cons, get?_cons, get?_cons, ih]
      split <;> rfl

theorem get?_eq_none_iff : get? members key = none ↔ key ∉ members.map (·.1) := by
  rw [get?, Option.map_eq_none_iff, List.find?_eq_none]
  constructor
  · intro h hkey
    obtain ⟨member, hmember, rfl⟩ := List.mem_map.mp hkey
    exact h member hmember (beq_self_eq_true _)
  · intro h member hmember hkey
    exact h (eq_of_beq hkey ▸ List.mem_map_of_mem hmember)

/-- Each key once, at the position of its first value and with its last one. -/
def resolved (members : Members α) : Members α :=
  (members.map (·.1)).eraseDups.filterMap fun key => (get? members.reverse key).map (key, ·)

/-- Every key has a last value. -/
theorem exists_last (h : key ∈ (members.map (·.1)).eraseDups) :
    ∃ value, get? members.reverse key = some value := by
  rw [List.mem_eraseDups] at h
  refine Option.ne_none_iff_exists'.mp fun hnone => ?_
  rw [get?_eq_none_iff, List.map_reverse, List.mem_reverse] at hnone
  exact hnone h

theorem map_fst_resolved : members.resolved.map (·.1) = (members.map (·.1)).eraseDups := by
  rw [resolved, List.map_filterMap]
  refine (List.filterMap_congr fun key hkey => ?_).trans List.filterMap_some
  obtain ⟨value, hvalue⟩ := exists_last hkey
  rw [hvalue, Option.map_some, Option.map_some]

/-- Among members made of keys, a key has the value it was given. -/
theorem get?_filter_map (keys : List String) (give : String → Option α) :
    get? (keys.filterMap fun key => (give key).map (key, ·)) key =
      if key ∈ keys then give key else none := by
  induction keys with
  | nil => rfl
  | cons first keys ih =>
      by_cases hkey : first = key
      · subst hkey
        cases hgive : give first with
        | none => simp [hgive, ih]
        | some value => simp [hgive, get?_cons]
      · cases hgive : give first with
        | none => simp [hgive, ih, Ne.symm hkey]
        | some value => simp [hgive, ih, hkey, get?_cons, Ne.symm hkey]

theorem get?_resolved : get? members.resolved key = get? members.reverse key := by
  rw [resolved, get?_filter_map]
  split
  next => rfl
  next hkey =>
    rw [eq_comm, get?_eq_none_iff, List.map_reverse, List.mem_reverse]
    rwa [List.mem_eraseDups] at hkey

/-- A further member is put. -/
theorem resolved_concat :
    resolved (members ++ [(key, value)]) = members.resolved.put key value := by
  have hlast (other : String) : get? (members ++ [(key, value)]).reverse other =
      if key = other then some value else get? members.reverse other := by
    rw [List.reverse_concat, get?_cons]
  have hkeys : members.resolved.any (·.1 == key) = (members.map (·.1)).contains key := by
    rw [← contains_map_fst, map_fst_resolved]
    simp
  rw [put, hkeys, resolved, List.map_append, List.map_singleton, erase_dups_concat]
  split
  case isTrue =>
    rw [resolved, List.map_filterMap]
    refine List.filterMap_congr fun other hother => ?_
    obtain ⟨old, hold⟩ := exists_last hother
    rw [hlast, hold, Option.map_some, Option.map_some]
    by_cases hsame : key = other
    · simp [hsame]
    · simp [hsame, Ne.symm hsame]
  case isFalse hnew =>
    rw [List.contains_iff_mem] at hnew
    have hsingle : [key].filterMap (fun other =>
        (get? (members ++ [(key, value)]).reverse other).map (other, ·)) = [(key, value)] := by
      rw [List.filterMap_cons, hlast, if_pos rfl]
      rfl
    rw [List.filterMap_append, hsingle, resolved]
    refine congrArg (· ++ [(key, value)]) (List.filterMap_congr fun other hother => ?_)
    have hother : key ≠ other := fun hsame => hnew (hsame ▸ List.mem_eraseDups.mp hother)
    rw [hlast, if_neg hother]

/-- Members that are put one by one. -/
theorem foldl_put :
    members.foldl (fun kept member => put kept member.1 member.2) [] = members.resolved := by
  induction members using List.reverseRecOn with
  | nil => rfl
  | append_singleton members last ih => rw [List.foldl_concat, ih, ← resolved_concat]

/-- A member under a new key goes to the end. -/
theorem put_of_new (h : key ∉ members.map (·.1)) :
    members.put key value = members ++ [(key, value)] := by
  rw [put, ← contains_map_fst, if_neg (h ∘ List.contains_iff_mem.mp)]

/-- Members with distinct keys stay as they are. -/
theorem resolved_of_nodup (h : (members.map (·.1)).Nodup) : members.resolved = members := by
  induction members using List.reverseRecOn with
  | nil => rfl
  | append_singleton members last ih =>
      rw [List.map_append, List.nodup_append] at h
      obtain ⟨hmembers, -, hnew⟩ := h
      have hlast : last.1 ∉ members.map (·.1) := fun hmem =>
        hnew _ hmem _ (List.mem_singleton_self _) rfl
      rw [resolved_concat, ih hmembers, put_of_new hlast]

end Members

namespace Json

/-! ## What a document says -/

mutual

/-- The number of containers around the most deeply nested part of a value. -/
def depth : Json → Nat
  | .array items => itemDepth items + 1
  | .object members => memberDepth members + 1
  | .null | .bool _ | .number _ | .string _ => 0

/-- The depth of the deepest item. -/
def itemDepth : List Json → Nat
  | [] => 0
  | item :: rest => max item.depth (itemDepth rest)

/-- The depth of the deepest value of members. -/
def memberDepth : List (String × Json) → Nat
  | [] => 0
  | (_, value) :: rest => max value.depth (memberDepth rest)

end

mutual

/-- The value that a document says. -/
def resolved : Json → Json
  | .null => .null
  | .bool b => .bool b
  | .number n => .number n
  | .string s => .string s
  | .array items => .array (resolvedItems items)
  | .object members => .object (Members.resolved (resolvedMembers members))

/-- The values that items say. -/
def resolvedItems : List Json → List Json
  | [] => []
  | item :: rest => item.resolved :: resolvedItems rest

/-- The members with the values that theirs say. -/
def resolvedMembers : Members Json → Members Json
  | [] => []
  | (key, value) :: rest => (key, value.resolved) :: resolvedMembers rest

end

theorem resolved_items_eq_map (items : List Json) : resolvedItems items = items.map resolved := by
  induction items with
  | nil => rfl
  | cons item rest ih => rw [resolvedItems, ih, List.map_cons]

theorem resolved_members_eq_map (members : Members Json) :
    resolvedMembers members = members.map fun member => (member.1, member.2.resolved) := by
  induction members with
  | nil => rfl
  | cons member rest ih => rw [resolvedMembers, ih, List.map_cons]

mutual

/-- A document is read as the value that it says, if there is room for its containers, and is
refused otherwise. -/
theorem of_draft_document (written : Json) (room : Nat) :
    ofDraft room written.toDraft =
      if written.depth ≤ room then .ok written.resolved else .error .malformed := by
  match written with
  | .null | .bool _ | .number _ | .string _ => rfl
  | .array items =>
      rw [toDraft, ofDraft, depth]
      cases room with
      | zero => rfl
      | succ room =>
          rw [if_neg (Nat.succ_ne_zero room), Nat.add_sub_cancel,
            of_draft_document_items items room]
          simp only [Nat.add_le_add_iff_right]
          split <;> rfl
  | .object members =>
      rw [toDraft, ofDraft, depth]
      cases room with
      | zero => rfl
      | succ room =>
          rw [if_neg (Nat.succ_ne_zero room), Nat.add_sub_cancel,
            of_draft_document_members members room [], Members.foldl_put]
          simp only [Nat.add_le_add_iff_right]
          split <;> rfl

/-- The items of a document are read one after the other. -/
theorem of_draft_document_items (items : List Json) (room : Nat) :
    ofDraftItems room (itemDrafts items) =
      if itemDepth items ≤ room then .ok (resolvedItems items) else .error .malformed := by
  match items with
  | [] => rfl
  | item :: rest =>
      rw [itemDrafts, ofDraftItems, of_draft_document item room, of_draft_document_items rest room,
        itemDepth, resolvedItems]
      by_cases hfirst : item.depth ≤ room <;> by_cases hrest : itemDepth rest ≤ room <;>
        simp [hfirst, hrest, bind, Except.bind, pure, Except.pure]

/-- The members of a document are put one after the other. -/
theorem of_draft_document_members (members : Members Json) (room : Nat) (done : Members Json) :
    ofDraftMembers room done (memberDrafts members) =
      if memberDepth members ≤ room then
        .ok ((resolvedMembers members).foldl (fun kept member => kept.put member.1 member.2) done)
      else .error .malformed := by
  match members with
  | [] => rfl
  | (key, value) :: rest =>
      rw [memberDrafts, ofDraftMembers, Decoder.string, ok_bind, of_draft_document value room,
        memberDepth, resolvedMembers, List.foldl_cons]
      by_cases hfirst : value.depth ≤ room
      · rw [if_pos hfirst, ok_bind, of_draft_document_members rest room]
        simp only [Nat.max_le, hfirst, true_and]
      · rw [if_neg hfirst, if_neg fun hmax => hfirst (Nat.max_le.mp hmax).1]
        rfl

end

/-! ## What is read is a document -/

mutual

/-- Every draft that can be read is that of a document. -/
theorem exists_document (draft : Draft) {room : Nat} {value : Json}
    (h : ofDraft room draft = .ok value) : ∃ written : Json, draft = written.toDraft := by
  match draft with
  | .null => exact ⟨.null, rfl⟩
  | .bool b => exact ⟨.bool b, rfl⟩
  | .number n => exact ⟨.number n, rfl⟩
  | .string s => exact ⟨.string s, rfl⟩
  | .unreadable | .broken _ => cases h
  | .array drafts ending =>
      rw [ofDraft] at h
      split at h
      next => cases h
      next =>
        obtain ⟨values, hvalues, h⟩ := bind_eq_ok_iff.mp h
        obtain ⟨_, hend, -⟩ := bind_eq_ok_iff.mp h
        obtain ⟨items, rfl⟩ := exists_document_items drafts hvalues
        cases ending with
        | none => exact ⟨.array items, rfl⟩
        | some fault => cases hend
  | .object drafts ending =>
      rw [ofDraft] at h
      split at h
      next => cases h
      next =>
        obtain ⟨values, hvalues, h⟩ := bind_eq_ok_iff.mp h
        obtain ⟨_, hend, -⟩ := bind_eq_ok_iff.mp h
        obtain ⟨members, rfl⟩ := exists_document_members drafts hvalues
        cases ending with
        | none => exact ⟨.object members, rfl⟩
        | some fault => cases hend

/-- Drafts of items that can be read are those of documents. -/
theorem exists_document_items (drafts : List Draft) {room : Nat} {values : List Json}
    (h : ofDraftItems room drafts = .ok values) : ∃ items, drafts = itemDrafts items := by
  match drafts with
  | [] => exact ⟨[], rfl⟩
  | draft :: rest =>
      rw [ofDraftItems] at h
      obtain ⟨value, hvalue, h⟩ := bind_eq_ok_iff.mp h
      obtain ⟨others, hothers, -⟩ := bind_eq_ok_iff.mp h
      obtain ⟨item, rfl⟩ := exists_document draft hvalue
      obtain ⟨items, rfl⟩ := exists_document_items rest hothers
      exact ⟨item :: items, rfl⟩

/-- Drafts of members that can be read have strings for keys, and documents for values. -/
theorem exists_document_members (drafts : List (Draft × Draft)) {room : Nat}
    {done last : Members Json} (h : ofDraftMembers room done drafts = .ok last) :
    ∃ members, drafts = memberDrafts members := by
  match drafts with
  | [] => exact ⟨[], rfl⟩
  | (key, draft) :: rest =>
      rw [ofDraftMembers] at h
      obtain ⟨name, hname, h⟩ := bind_eq_ok_iff.mp h
      obtain ⟨value, hvalue, hrest⟩ := bind_eq_ok_iff.mp h
      obtain ⟨item, rfl⟩ := exists_document draft hvalue
      obtain ⟨members, rfl⟩ := exists_document_members rest hrest
      cases key with
      | string s => exact ⟨(s, item) :: members, rfl⟩
      | _ => cases hname

end

mutual

/-- Different documents have different drafts. -/
theorem to_draft_inj {a b : Json} (h : a.toDraft = b.toDraft) : a = b := by
  cases a <;> cases b <;>
    simp only [toDraft, reduceCtorEq, Draft.bool.injEq, Draft.number.injEq, Draft.string.injEq,
      Draft.array.injEq, Draft.object.injEq, and_true] at h
  case null.null => rfl
  case array.array => rw [item_drafts_inj h]
  case object.object => rw [member_drafts_inj h]
  all_goals rw [h]

theorem item_drafts_inj {a b : List Json} (h : itemDrafts a = itemDrafts b) : a = b := by
  match a, b with
  | [], [] => rfl
  | [], _ :: _ | _ :: _, [] => simp [itemDrafts] at h
  | x :: xs, y :: ys =>
      rw [itemDrafts, itemDrafts, List.cons.injEq] at h
      rw [to_draft_inj h.1, item_drafts_inj h.2]

theorem member_drafts_inj {a b : Members Json} (h : memberDrafts a = memberDrafts b) : a = b := by
  match a, b with
  | [], [] => rfl
  | [], _ :: _ | _ :: _, [] => simp [memberDrafts] at h
  | (k, x) :: xs, (l, y) :: ys =>
      rw [memberDrafts, memberDrafts, List.cons.injEq, Prod.mk.injEq, Draft.string.injEq] at h
      rw [h.1.1, to_draft_inj h.1.2, member_drafts_inj h.2]

end

/-! ## Texts of documents -/

/-- Decoding a text is decoding its draft, if nothing follows it. -/
theorem read_of_draft {α : Type} {decode : Decoder α} {text : String} {root : Draft}
    (h : draft text = ⟨root, false⟩) : read decode text = decode Decoder.maxDepth root := by
  rw [read, h]
  cases hdecode : decode Decoder.maxDepth root with
  | ok a => rw [ok_bind, if_neg Bool.false_ne_true]
  | error e => rfl

/-- The text is that of a document. -/
def Writes (text : String) (written : Json) : Prop :=
  draft text = ⟨written.toDraft, false⟩

/-- A text is that of one document at most. -/
theorem Writes.unique {text : String} {a b : Json} (h : Writes text a) (hother : Writes text b) :
    a = b := by
  apply to_draft_inj
  exact congrArg Document.root (h.symm.trans hother)

/-- Decoding a text is decoding its document. -/
theorem Writes.read_eq {α : Type} {decode : Decoder α} {text : String} {written : Json}
    (h : Writes text written) : read decode text = decode Decoder.maxDepth written.toDraft :=
  read_of_draft h

/-- A text that is read as a value is that of a document that says the value. -/
theorem exists_writes_of_parse {text : String} {value : Json} (h : parse text = .ok value) :
    ∃ written : Json, Writes text written ∧ written.depth ≤ Decoder.maxDepth ∧
      value = written.resolved := by
  obtain ⟨root, hroot, hend⟩ := bind_eq_ok_iff.mp h
  obtain ⟨written, hwritten⟩ := exists_document (draft text).root hroot
  split at hend
  next => cases hend
  next htrailing =>
    cases hend
    rw [decoder, hwritten, of_draft_document] at hroot
    split at hroot
    next hdepth =>
      refine ⟨written, ?_, hdepth, (Except.ok.inj hroot).symm⟩
      rw [Writes, ← hwritten, ← Bool.eq_false_iff.mpr htrailing]
    next => cases hroot

end Json

end StatsBoard
