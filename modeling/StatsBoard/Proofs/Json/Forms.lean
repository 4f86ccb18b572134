import StatsBoard.Proofs.Json.Decoding
import StatsBoard.Proofs.Json.Documents

/-!
# Forms of values

A form says which drafts are written for which values, whatever a decoder does. A decoder is exact
for a form if it reads the drafts of the form as their values and refuses all others
(`Decoder.Exact`). There is a lemma for every way in which decoders of values, lists and maps are
made. A value that is skipped may be anything without a fault (`Draft.Whole`).
-/

namespace StatsBoard

/-! ## Values that are skipped -/

namespace Draft

/-- No fault is anywhere in the draft, so that it is that of a JSON value. A number or a string in
it may be one that cannot be read. -/
inductive Whole : Draft → Prop
  | null : Whole .null
  | bool (b : Bool) : Whole (.bool b)
  | number (n : Number) : Whole (.number n)
  | string (s : String) : Whole (.string s)
  | unreadable : Whole .unreadable
  | array {items : List Draft} (h : ∀ item ∈ items, item.Whole) : Whole (.array items none)
  | object {members : List (Draft × Draft)} (hkeys : ∀ member ∈ members, member.1.Whole)
      (hvalues : ∀ member ∈ members, member.2.Whole) : Whole (.object members none)

mutual

/-- A value can be skipped exactly if it has no fault. -/
theorem skip_error_eq_none_iff (draft : Draft) : draft.skipError? = none ↔ draft.Whole := by
  match draft with
  | .null => exact iff_of_true rfl .null
  | .bool b => exact iff_of_true rfl (.bool b)
  | .number n => exact iff_of_true rfl (.number n)
  | .string s => exact iff_of_true rfl (.string s)
  | .unreadable => exact iff_of_true rfl .unreadable
  | .broken fault => exact iff_of_false nofun nofun
  | .array items ending =>
      rw [skipError?, skip_items_eq_none_iff items, Option.map_eq_none_iff]
      constructor
      · rintro ⟨hitems, rfl⟩
        exact .array hitems
      · rintro (_ | _ | _ | _ | _ | hitems)
        exact ⟨hitems, rfl⟩
  | .object members ending =>
      rw [skipError?, skip_members_eq_none_iff members, Option.map_eq_none_iff]
      constructor
      · rintro ⟨hkeys, hvalues, rfl⟩
        exact .object hkeys hvalues
      · rintro (_ | _ | _ | _ | _ | _ | ⟨hkeys, hvalues⟩)
        exact ⟨hkeys, hvalues, rfl⟩

/-- Items can be skipped exactly if each of them can. -/
theorem skip_items_eq_none_iff (items : List Draft) (ending : Option JsonError) :
    skipItems? items ending = none ↔ (∀ item ∈ items, item.Whole) ∧ ending = none := by
  match items with
  | [] => simp [skipItems?]
  | item :: rest =>
      rw [skipItems?, Option.or_eq_none_iff, skip_error_eq_none_iff item,
        skip_items_eq_none_iff rest, List.forall_mem_cons, and_assoc]

/-- Members can be skipped exactly if their keys and values can. -/
theorem skip_members_eq_none_iff (members : List (Draft × Draft)) (ending : Option JsonError) :
    skipMembers? members ending = none ↔ (∀ member ∈ members, member.1.Whole) ∧
      (∀ member ∈ members, member.2.Whole) ∧ ending = none := by
  match members with
  | [] => simp [skipMembers?]
  | (key, value) :: rest =>
      rw [skipMembers?, Option.or_eq_none_iff, Option.or_eq_none_iff, skip_error_eq_none_iff key,
        skip_error_eq_none_iff value, skip_members_eq_none_iff rest, List.forall_mem_cons,
        List.forall_mem_cons]
      tauto

end

/-- Members with the drafts of their keys. -/
def keyed (members : Members Draft) : List (Draft × Draft) :=
  members.map fun member => (.string member.1, member.2)

/-- The draft of an object with the given members. -/
def ofMembers (members : Members Draft) : Draft :=
  .object (keyed members) none

end Draft

/-! ## Forms -/

/-- Which drafts are written for which values. -/
abbrev Form (α : Type) := Draft → α → Prop

namespace Form

variable {α : Type}

/-- A string. -/
def string : Form String := fun draft s => draft = .string s

/-- A boolean. -/
def bool : Form Bool := fun draft b => draft = .bool b

/-- An integer between two bounds, without fraction and exponent. -/
def integer (low high : Int) : Form Int := fun draft i =>
  draft = .number (.integer i) ∧ low ≤ i ∧ i ≤ high

/-- A natural number below a bound. -/
def natural (bound : Nat) : Form Nat := fun draft n => draft = .number (.integer n) ∧ n < bound

/-- Any number. -/
def real : Form Binary64 := fun draft x => ∃ n : Number, draft = .number n ∧ x = n.toBinary64

/-- A value, or `null` for none. -/
def option (form : Form α) : Form (Option α) := fun draft value =>
  draft = .null ∧ value = none ∨ ∃ a, form draft a ∧ value = some a

/-- The name of an alternative, or an object that gives it the value `null`. -/
def variant (choose : String → Option α) : Form α := fun draft a =>
  ∃ name, choose name = some a ∧ (draft = .string name ∨ draft = .ofMembers [(name, .null)])

/-- An array of values. -/
def list (form : Form α) : Form (List α) := fun draft values =>
  ∃ items, draft = .array items none ∧ List.Forall₂ form items values

/-- An object whose members are entries that are put into a map one after the other. -/
def map {β γ : Type} (key : String → Option α) (form : Form β) (empty : γ) (put : γ → α → β → γ) :
    Form γ := fun draft map =>
  ∃ (members : Members Draft) (entries : List (α × β)), draft = .ofMembers members ∧
    List.Forall₂ (fun member entry => key member.1 = some entry.1 ∧ form member.2 entry.2)
      members entries ∧
    map = entries.foldl (fun map entry => put map entry.1 entry.2) empty

end Form

namespace Decoder

/-- With room for `depth` more containers, the decoder reads the drafts of a form as their values
and refuses all others. -/
def Exact {α : Type} (decode : Decoder α) (depth : Nat) (form : Form α) : Prop :=
  ∀ room, depth ≤ room → ∀ draft a, decode room draft = .ok a ↔ form draft a

variable {α β γ : Type} {decode : Decoder α} {form : Form α} {depth room : Nat}

/-- More room does not matter. -/
theorem Exact.mono {more : Nat} (h : decode.Exact depth form) (hmore : depth ≤ more) :
    decode.Exact more form :=
  fun room hroom => h room (Nat.le_trans hmore hroom)

/-- A decoder that enters a container is exact if it is with room for that one more. -/
theorem exact_of_succ (h : ∀ room, depth ≤ room → ∀ draft a,
    decode (room + 1) draft = .ok a ↔ form draft a) : decode.Exact (depth + 1) form := by
  intro room hroom
  obtain ⟨inner, rfl⟩ : ∃ inner, room = inner + 1 := ⟨room - 1, by omega⟩
  exact h inner (by omega)

theorem exact_string : string.Exact 0 .string := by
  intro room _ draft s
  cases draft <;> simp [string, Form.string]

theorem exact_bool : bool.Exact 0 .bool := by
  intro room _ draft b
  cases draft <;> simp [bool, Form.bool]

theorem exact_integer (low high : Int) : (integer low high).Exact 0 (.integer low high) := by
  intro room _ draft i
  unfold integer Form.integer
  split
  next value =>
    rw [Draft.number.injEq, Number.integer.injEq]
    split
    next hbounds =>
      rw [Except.ok.injEq]
      exact ⟨fun h => h ▸ ⟨rfl, hbounds⟩, fun h => h.1⟩
    next hbounds => exact iff_of_false nofun fun h => hbounds (h.1 ▸ h.2)
  next hother => exact iff_of_false nofun fun h => hother i h.1

theorem exact_natural (bound : Nat) : (natural bound).Exact 0 (.natural bound) := by
  intro room hroom draft n
  rw [natural, map_eq_ok_iff, Form.natural]
  constructor
  · rintro ⟨i, hi, rfl⟩
    obtain ⟨hdraft, hlow, hhigh⟩ := (exact_integer 0 (bound - 1) room hroom draft i).mp hi
    rw [Int.toNat_of_nonneg hlow]
    exact ⟨hdraft, by omega⟩
  · rintro ⟨hdraft, hn⟩
    refine ⟨n, (exact_integer 0 (bound - 1) room hroom draft n).mpr ⟨hdraft, ?_, ?_⟩, rfl⟩ <;> omega

theorem exact_real : real.Exact 0 .real := by
  intro room _ draft x
  cases draft <;> simp [real, Form.real, eq_comm]

theorem exact_option (h : decode.Exact depth form) (hnull : ∀ a, ¬ form .null a) :
    (option decode).Exact depth form.option := by
  intro room hroom draft value
  unfold option Form.option
  split
  next =>
    rw [Except.ok.injEq, eq_comm (a := none)]
    exact ⟨fun hnone => .inl ⟨rfl, hnone⟩, fun hvalue => hvalue.elim (·.2)
      fun ⟨a, ha, _⟩ => absurd ha (hnull a)⟩
  next hother =>
    rw [map_eq_ok_iff]
    constructor
    · rintro ⟨a, ha, rfl⟩
      exact .inr ⟨a, (h room hroom draft a).mp ha, rfl⟩
    · rintro (⟨hdraft, -⟩ | ⟨a, ha, rfl⟩)
      · exact absurd hdraft hother
      · exact ⟨a, (h room hroom draft a).mpr ha, rfl⟩

/-- A container is properly closed exactly if it has no fault at its end. -/
theorem close_eq_ok_iff {ending : Option Fault} {done : Unit} :
    close ending = .ok done ↔ ending = none := by
  cases ending <;> simp [close]

theorem exact_variant (choose : String → Option α) :
    (variant choose).Exact 1 (.variant choose) := by
  refine exact_of_succ fun room _ draft a => ?_
  unfold variant Form.variant Draft.ofMembers Draft.keyed
  extract_lets named
  -- A name is that of the alternative which is chosen for it.
  have hnamed : ∀ draft chosen, named draft = .ok chosen ↔
      ∃ name, choose name = some chosen ∧ draft = .string name := by
    intro draft chosen
    rw [bind_eq_ok_iff]
    refine exists_congr fun name => ?_
    rw [exact_string _ (Nat.zero_le _), Form.string, and_comm]
    refine and_congr_left fun _ => ?_
    cases choose name <;> simp
  split
  next s =>
    rw [hnamed]
    simp
  next => simp
  next => simp
  next => simp
  next key value rest ending =>
    rw [enter, bind_eq_ok_iff]
    constructor
    · rintro ⟨chosen, hchosen, hrest⟩
      obtain ⟨name, hname, rfl⟩ := (hnamed key chosen).mp hchosen
      have hshape : value = .null ∧ rest = [] ∧ ending = none ∧ chosen = a := by
        cases value <;> cases rest <;> cases ending <;> first | cases hrest; simp | cases hrest
      obtain ⟨rfl, rfl, rfl, rfl⟩ := hshape
      exact ⟨name, hname, .inr rfl⟩
    · rintro ⟨name, hname, hdraft | hdraft⟩
      · cases hdraft
      · cases hdraft
        exact ⟨a, (hnamed _ a).mpr ⟨name, hname, rfl⟩, rfl⟩
  next hstring _ _ _ hobject =>
    constructor
    · rintro ⟨⟩
    · rintro ⟨name, -, hdraft | hdraft⟩
      · exact absurd hdraft (hstring name)
      · exact absurd hdraft (hobject _ _ _ _)

/-! ## Lists and maps -/

/-- Items are decoded exactly if each of them is. -/
theorem items_eq_ok_iff {read : Draft → Except JsonError α}
    (h : ∀ draft a, read draft = .ok a ↔ form draft a) {drafts : List Draft} {values : List α} :
    items read drafts = .ok values ↔ List.Forall₂ form drafts values := by
  induction drafts generalizing values with
  | nil => simp [items, eq_comm]
  | cons draft drafts ih =>
      rw [items, bind_eq_ok_iff, List.forall₂_cons_left_iff]
      constructor
      · rintro ⟨a, ha, hrest⟩
        obtain ⟨rest, hitems, heq⟩ := bind_eq_ok_iff.mp hrest
        cases heq
        exact ⟨a, rest, (h draft a).mp ha, ih.mp hitems, rfl⟩
      · rintro ⟨a, rest, ha, hrest, rfl⟩
        exact ⟨a, (h draft a).mpr ha, bind_eq_ok_iff.mpr ⟨rest, ih.mpr hrest, rfl⟩⟩

theorem exact_list (h : decode.Exact depth form) : (list decode).Exact (depth + 1) form.list := by
  refine exact_of_succ fun room hroom draft values => ?_
  unfold list Form.list
  split
  next drafts ending =>
    rw [enter, bind_eq_ok_iff]
    constructor
    · rintro ⟨read, hread, hclose⟩
      obtain ⟨⟨⟩, hending, heq⟩ := bind_eq_ok_iff.mp hclose
      cases heq
      rw [close_eq_ok_iff.mp hending]
      exact ⟨drafts, rfl, (items_eq_ok_iff (h room hroom)).mp hread⟩
    · rintro ⟨items, hdraft, hitems⟩
      cases hdraft
      exact ⟨values, (items_eq_ok_iff (h room hroom)).mpr hitems, rfl⟩
  next hother =>
    constructor
    · rintro ⟨⟩
    · rintro ⟨items, hdraft, -⟩
      exact absurd hdraft (hother _ _)

/-- The entries of a map are put into it one after the other. -/
theorem entries_eq_ok_iff {key : String → Option β} {put : γ → β → α → γ}
    {read : Draft → Except JsonError α} (h : ∀ draft a, read draft = .ok a ↔ form draft a)
    {drafts : List (Draft × Draft)} {map last : γ} :
    entries key read put map drafts = .ok last ↔
      ∃ (members : Members Draft) (found : List (β × α)), drafts = Draft.keyed members ∧
        List.Forall₂ (fun member entry => key member.1 = some entry.1 ∧ form member.2 entry.2)
          members found ∧
        last = found.foldl (fun map entry => put map entry.1 entry.2) map := by
  induction drafts generalizing map with
  | nil =>
      rw [entries, Except.ok.injEq]
      constructor
      · rintro rfl
        exact ⟨[], [], rfl, .nil, rfl⟩
      · rintro ⟨members, found, hmembers, hfound, rfl⟩
        obtain rfl := List.map_eq_nil_iff.mp hmembers.symm
        obtain rfl := List.forall₂_nil_left_iff.mp hfound
        rfl
  | cons member drafts ih =>
      obtain ⟨name, draft⟩ := member
      constructor
      · intro hread
        obtain ⟨key, hkey, hrest⟩ := bind_eq_ok_iff.mp hread
        obtain rfl := (exact_string 0 (Nat.le_refl 0) _ _).mp hkey
        split at hrest
        next => cases hrest
        next b hb =>
          obtain ⟨a, ha, hrest⟩ := bind_eq_ok_iff.mp hrest
          obtain ⟨members, found, rfl, hfound, rfl⟩ := ih.mp hrest
          exact ⟨(key, draft) :: members, (b, a) :: found, rfl,
            .cons ⟨hb, (h draft a).mp ha⟩ hfound, rfl⟩
      · rintro ⟨_ | ⟨member, members⟩, found, hmembers, hfound, rfl⟩
        · cases hmembers
        · cases hmembers
          obtain ⟨entry, others, ⟨hkey, hentry⟩, hothers, rfl⟩ :=
            List.forall₂_cons_left_iff.mp hfound
          rw [entries, string, ok_bind, hkey]
          have hrest := ih.mpr ⟨members, others, rfl, hothers, rfl⟩
          exact bind_eq_ok_iff.mpr ⟨entry.2, (h _ _).mpr hentry, hrest⟩

theorem exact_map {key : String → Option β} {empty : γ} {put : γ → β → α → γ}
    (h : decode.Exact depth form) :
    (map key decode empty put).Exact (depth + 1) (.map key form empty put) := by
  refine exact_of_succ fun room hroom draft last => ?_
  unfold map Form.map
  split
  next drafts ending =>
    rw [enter, bind_eq_ok_iff]
    constructor
    · rintro ⟨read, hread, hclose⟩
      obtain ⟨⟨⟩, hending, heq⟩ := bind_eq_ok_iff.mp hclose
      cases heq
      obtain ⟨members, found, rfl, hfound, rfl⟩ := (entries_eq_ok_iff (h room hroom)).mp hread
      rw [close_eq_ok_iff.mp hending]
      exact ⟨members, found, rfl, hfound, rfl⟩
    · rintro ⟨members, found, hdraft, hfound, rfl⟩
      cases hdraft
      exact ⟨_, (entries_eq_ok_iff (h room hroom)).mpr ⟨members, found, rfl, hfound, rfl⟩, rfl⟩
  next hother =>
    constructor
    · rintro ⟨⟩
    · rintro ⟨members, found, hdraft, -⟩
      exact absurd hdraft (hother _ _)

end Decoder

end StatsBoard
