import Mathlib.Data.List.Basic
import StatsBoard.Registry

/-!
# Whose entity an identifier names

The history of an aggregate can name the aggregate itself and children under it. As long as no
aggregate is named like a child of another, an identifier says under which aggregate its entity
stands and what it is: `OwnedBy.unique`.
-/

namespace StatsBoard

/-- An identifier and a kind are those of an aggregate or of a child under it. -/
inductive OwnedBy (aggregate : String) : String → EntityKind → Prop where
  | itself : OwnedBy aggregate aggregate (.ofAggregate aggregate)
  | child (key : String) : OwnedBy aggregate (childId aggregate key) (.ofChild aggregate key)

/-- No name begins with another one and a hyphen. -/
def Unambiguous (names : List String) : Prop :=
  ∀ first ∈ names, ∀ second ∈ names, ¬ first.toList ++ ['-'] <+: second.toList

/-- `Unambiguous` compares finitely many texts. -/
instance (names : List String) : Decidable (Unambiguous names) :=
  inferInstanceAs (Decidable (∀ first ∈ names, ∀ second ∈ names, ¬ _ <+: _))

/-- The characters of a child's identifier. -/
theorem to_list_child_id (parent key : String) :
    (childId parent key).toList = parent.toList ++ '-' :: key.toList := by
  simp [childId]

variable {names : List String} {first second id : String} {kind other : EntityKind}

/-- No aggregate is named like a child of another. -/
theorem Unambiguous.ne_child_id (h : Unambiguous names) (hfirst : first ∈ names)
    (hsecond : second ∈ names) (key : String) : second ≠ childId first key := by
  rintro rfl
  refine h first hfirst _ hsecond ⟨key.toList, ?_⟩
  rw [to_list_child_id, List.append_assoc, List.singleton_append]

/-- Two texts continued with the same separator agree, or one begins the other with the separator
after it. -/
theorem append_separator_inj {c : Char} {first second rest more : List Char}
    (h : first ++ c :: rest = second ++ c :: more) :
    (first = second ∧ rest = more) ∨ first ++ [c] <+: second ∨ second ++ [c] <+: first := by
  rcases List.append_eq_append_iff.mp h with ⟨between, hname, hrest⟩ | ⟨between, hname, hrest⟩
  · cases between with
    | nil => exact Or.inl (by simp_all)
    | cons d between =>
        obtain ⟨rfl, _⟩ := List.cons.inj hrest
        exact Or.inr (Or.inl ⟨between, by simp [hname]⟩)
  · cases between with
    | nil => exact Or.inl (by simp_all)
    | cons d between =>
        obtain ⟨rfl, _⟩ := List.cons.inj hrest
        exact Or.inr (Or.inr ⟨between, by simp [hname]⟩)

/-- Aggregates have children under different identifiers. -/
theorem Unambiguous.child_id_inj (h : Unambiguous names) (hfirst : first ∈ names)
    (hsecond : second ∈ names) {key otherKey : String}
    (heq : childId first key = childId second otherKey) : first = second ∧ key = otherKey := by
  have hchars := congrArg String.toList heq
  rw [to_list_child_id, to_list_child_id] at hchars
  rcases append_separator_inj hchars with ⟨hname, hkey⟩ | hbegins | hbegins
  · exact ⟨String.toList_inj.mp hname, String.toList_inj.mp hkey⟩
  · exact absurd hbegins (h first hfirst second hsecond)
  · exact absurd hbegins (h second hsecond first hfirst)

namespace OwnedBy

/-- An identifier stands under one aggregate and for one kind of entity. -/
theorem unique (h : Unambiguous names) (hfirst : first ∈ names) (hsecond : second ∈ names)
    (howned : OwnedBy first id kind) (hother : OwnedBy second id other) :
    first = second ∧ kind = other := by
  cases howned with
  | itself =>
      cases hother with
      | itself => exact ⟨rfl, rfl⟩
      | child key => exact absurd rfl (h.ne_child_id hsecond hfirst key)
  | child key =>
      generalize hid : childId first key = id at hother
      cases hother with
      | itself => exact absurd hid.symm (h.ne_child_id hfirst hsecond key)
      | child otherKey =>
          obtain ⟨rfl, rfl⟩ := h.child_id_inj hfirst hsecond hid
          exact ⟨rfl, rfl⟩

/-- All that stands under an aggregate is of its family. -/
theorem family_eq (h : OwnedBy first id kind) : kind.family = .ofAggregate first := by
  cases h <;> rfl

/-- A record belongs to the aggregate under which its identifier stands, and to no other. -/
theorem belongs_to_iff (h : Unambiguous names) (hfirst : first ∈ names) (hsecond : second ∈ names)
    {record : EntityRecord} (howned : OwnedBy first record.id record.kind) :
    record.belongsTo second ↔ first = second := by
  obtain ⟨id, kind, series, subscribed⟩ := record
  change OwnedBy first id kind at howned
  cases howned with
  | itself => simp [EntityRecord.belongsTo, EntityKind.ofAggregate, EntityKind.parent?]
  | child key =>
      have hid : childId first key ≠ second := (h.ne_child_id hfirst hsecond key).symm
      simp [EntityRecord.belongsTo, EntityKind.ofChild, EntityKind.parent?, hid]

end OwnedBy

end StatsBoard
