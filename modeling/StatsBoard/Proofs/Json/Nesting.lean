import StatsBoard.Proofs.Json.Decoding
import StatsBoard.Proofs.Json.Documents
import StatsBoard.Proofs.Json.Reading

/-!
# How deep documents may be nested

A value that is printed is read back as a value if there is room for its containers, and otherwise
it is refused (`of_draft_to_draft`). Integers of 64 bits and finite numbers, and objects without
repeated keys, are what a value is made of (`Json.Proper`).
-/

namespace StatsBoard

namespace Json

/-- The numbers of the value are proper, and none of its objects has two members under one key. -/
inductive Proper : Json → Prop
  | null : Proper .null
  | bool (b : Bool) : Proper (.bool b)
  | number {n : Number} (h : n.Proper) : Proper (.number n)
  | string (s : String) : Proper (.string s)
  | array {items : List Json} (h : ∀ item ∈ items, item.Proper) : Proper (.array items)
  | object {members : List (String × Json)} (hkeys : (members.map (·.1)).Nodup)
      (h : ∀ member ∈ members, member.2.Proper) : Proper (.object members)

variable {value : Json} {items : List Json} {room : Nat}

theorem item_depth_le_iff : itemDepth items ≤ room ↔ ∀ item ∈ items, item.depth ≤ room := by
  induction items with
  | nil => simp [itemDepth]
  | cons item rest ih => rw [itemDepth, Nat.max_le, ih, List.forall_mem_cons]

/-- A proper value is a document that says the value itself. -/
theorem Proper.resolved_eq (h : value.Proper) : value.resolved = value := by
  induction h with
  | null => rfl
  | bool b => rfl
  | number _ => rfl
  | string s => rfl
  | array _ ih => rw [resolved, resolved_items_eq_map, List.map_congr_left ih, List.map_id']
  | @object members hkeys _ ih =>
      have hmembers : members.map (fun member => (member.1, member.2.resolved)) = members :=
        (List.map_congr_left fun member hmember => by rw [ih member hmember]).trans
          (List.map_id' members)
      rw [resolved, resolved_members_eq_map, hmembers, Members.resolved_of_nodup hkeys]

/-- A printed value is read as that value if there is room for its containers, and is refused
otherwise. -/
theorem Proper.of_draft_to_draft (h : value.Proper) (room : Nat) :
    ofDraft room value.toDraft = if value.depth ≤ room then .ok value else .error .malformed := by
  rw [of_draft_document, h.resolved_eq]

/-- All numbers of a proper value are proper. -/
theorem Proper.numbers (h : value.Proper) : ∀ n ∈ value.numbers, n.Proper := by
  induction h with
  | null => exact List.forall_mem_nil _
  | bool b => exact List.forall_mem_nil _
  | number hn => exact List.forall_mem_singleton.mpr hn
  | string s => exact List.forall_mem_nil _
  | array _ ih =>
      rw [Json.numbers, item_numbers_eq_flat_map]
      intro n hn
      obtain ⟨item, hitem, hn⟩ := List.mem_flatMap.mp hn
      exact ih item hitem n hn
  | object _ _ ih =>
      rw [Json.numbers, member_numbers_eq_flat_map]
      intro n hn
      obtain ⟨member, hmember, hn⟩ := List.mem_flatMap.mp hn
      exact ih member hmember n hn

/-- The real numbers inside the value are read as what is printed of them. -/
def RealsReadBack (value : Json) : Prop :=
  ∀ x, Number.real x ∈ value.numbers → ReadsBack (.real x)

/-- All numbers of a proper value are read back if its real numbers are. -/
theorem Proper.numbers_read_back (h : value.Proper) (hreals : value.RealsReadBack) :
    ∀ n ∈ value.numbers, ReadsBack n := by
  intro n hn
  cases n with
  | integer i => exact reads_back_integer (h.numbers _ hn)
  | real x => exact hreals x hn

end Json

end StatsBoard
