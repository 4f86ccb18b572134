import StatsBoard.Proofs.Json.Forms

/-!
# Records

A record is written as an object whose members come in any order, among which there may be others of
unknown names, or as an array of the values of its first fields (`Form.record`). Members are read in
text order. As long as the fields do not disturb each other (`Field.Commutes`), that is as good as
looking for the member of one field after the other (`Field.place`), so that what is read does not
depend on the order: `Decoder.record_eq_ok_iff`.
-/

namespace StatsBoard

/-! ## Members of a record -/

namespace Members

variable {members others : Members Draft} {names : List String} {name : String} {draft : Draft}

/-- Members of a record with fields of the given names: no field has two of them, and the values of
all others, which are skipped, have no fault. -/
structure Fits (names : List String) (members : Members Draft) : Prop where
  once : members.Pairwise fun first later => first.1 ∈ names → first.1 ≠ later.1
  others : ∀ member ∈ members, member.1 ∉ names → member.2.Whole

/-- The members have a value of some form under a name, or none. -/
def Gives {α : Type} (members : Members Draft) (name : String) (form : Form α) : Option α → Prop
  | none => name ∉ members.map (·.1)
  | some a => ∃ draft, (name, draft) ∈ members ∧ form draft a

/-- Nothing is given exactly if the name is missing. -/
theorem gives_none_iff {α : Type} {form : Form α} :
    members.Gives name form none ↔ name ∉ members.map (·.1) :=
  Iff.rfl

/-- The order of the members does not matter to whether they fit. -/
theorem Fits.perm (h : members.Fits names) (hperm : members.Perm others) : others.Fits names where
  once := by
    refine (hperm.pairwise_iff ?_).mp h.once
    intro first later hfirst hlater hsame
    exact hfirst (hsame ▸ hlater) hsame.symm
  others member hmember := h.others member (hperm.mem_iff.mpr hmember)

/-- A value that is given stands under its name. -/
theorem Gives.mem {α : Type} {form : Form α} {a : α} (h : members.Gives name form (some a)) :
    name ∈ members.map (·.1) := by
  obtain ⟨draft, hmember, -⟩ := h
  exact List.mem_map_of_mem hmember

theorem fits_cons_iff : Fits names ((name, draft) :: members) ↔
    (name ∈ names → name ∉ members.map (·.1)) ∧ (name ∉ names → draft.Whole) ∧
      members.Fits names := by
  constructor
  · rintro ⟨honce, hothers⟩
    obtain ⟨hfirst, honce⟩ := List.pairwise_cons.mp honce
    obtain ⟨hdraft, hothers⟩ := List.forall_mem_cons.mp hothers
    refine ⟨fun hname hmem => ?_, hdraft, honce, hothers⟩
    obtain ⟨member, hmember, rfl⟩ := List.mem_map.mp hmem
    exact hfirst member hmember hname rfl
  · rintro ⟨hfirst, hdraft, honce, hothers⟩
    refine ⟨List.pairwise_cons.mpr ⟨fun member hmember hname hsame => ?_, honce⟩,
      List.forall_mem_cons.mpr ⟨hdraft, hothers⟩⟩
    exact hfirst hname (List.mem_map.mpr ⟨member, hmember, hsame.symm⟩)

/-- Under the name of a field there is only one value. -/
theorem Fits.get?_eq_some_iff (h : members.Fits names) (hname : name ∈ names) :
    get? members name = some draft ↔ (name, draft) ∈ members := by
  induction members with
  | nil => exact iff_of_false nofun List.not_mem_nil
  | cons member members ih =>
      obtain ⟨hfirst, -, hrest⟩ := fits_cons_iff.mp h
      rw [get?_cons, List.mem_cons, ← ih hrest]
      split
      next hsame =>
        subst hsame
        have hnone : get? members member.1 = none := get?_eq_none_iff.mpr (hfirst hname)
        rw [hnone, Option.some.injEq, Prod.mk.injEq]
        simp [eq_comm]
      next hsame => simp [Prod.ext_iff, Ne.symm hsame]

/-- The order of the members does not matter to the value of a field. -/
theorem Fits.get?_perm (h : members.Fits names) (hperm : members.Perm others)
    (hname : name ∈ names) : get? members name = get? others name := by
  refine Option.ext fun draft => ?_
  rw [h.get?_eq_some_iff hname, (h.perm hperm).get?_eq_some_iff hname, hperm.mem_iff]

/-- Members that fit after some names have come before, one by one. -/
def FitsAfter (names : List String) : List String → Members Draft → Prop
  | _, [] => True
  | seen, (name, draft) :: rest =>
    if name ∈ names then name ∉ seen ∧ FitsAfter names (name :: seen) rest
    else draft.Whole ∧ FitsAfter names seen rest

/-- Members fit after some names if they fit and do not have a field among those names. -/
theorem fits_after_iff {seen : List String} : members.FitsAfter names seen ↔
    members.Fits names ∧ ∀ name ∈ names, name ∈ members.map (·.1) → name ∉ seen := by
  induction members generalizing seen with
  | nil => exact iff_of_true trivial ⟨⟨.nil, nofun⟩, nofun⟩
  | cons member members ih =>
      obtain ⟨name, draft⟩ := member
      rw [FitsAfter, fits_cons_iff, List.map_cons]
      split
      next hname =>
        rw [ih]
        constructor
        · rintro ⟨hseen, hfits, hnew⟩
          refine ⟨⟨fun _ hmem => hnew name hname hmem List.mem_cons_self, absurd hname, hfits⟩, ?_⟩
          intro other hother hmem hold
          rcases List.mem_cons.mp hmem with rfl | hmem
          · exact hseen hold
          · exact hnew other hother hmem (.tail _ hold)
        · rintro ⟨⟨hfirst, -, hfits⟩, hnew⟩
          refine ⟨hnew name hname List.mem_cons_self, hfits, fun other hother hmem hold => ?_⟩
          rcases List.mem_cons.mp hold with rfl | hold
          · exact hfirst hname hmem
          · exact hnew other hother (.tail _ hmem) hold
      next hname =>
        rw [ih]
        constructor
        · rintro ⟨hdraft, hfits, hnew⟩
          refine ⟨⟨fun hknown => absurd hknown hname, fun _ => hdraft, hfits⟩, ?_⟩
          intro other hother hmem
          rcases List.mem_cons.mp hmem with rfl | hmem
          · exact absurd hother hname
          · exact hnew other hother hmem
        · rintro ⟨⟨-, hdraft, hfits⟩, hnew⟩
          exact ⟨hdraft hname, hfits, fun other hother hmem => hnew other hother (.tail _ hmem)⟩

/-- Names that are given values in order. -/
theorem map_fst_zip (names : List String) (drafts : List Draft) :
    (names.zip drafts).map (·.1) = names.take drafts.length := by
  induction names generalizing drafts with
  | nil => simp
  | cons name names ih =>
      cases drafts with
      | nil => rfl
      | cons draft drafts =>
          rw [List.zip_cons_cons, List.map_cons, ih, List.length_cons, List.take_succ_cons]

/-- Names that are given values in order fit, if no name comes twice. -/
theorem fits_zip (hnames : names.Nodup) (drafts : List Draft) :
    Fits names (names.zip drafts) where
  once := by
    have hnodup : ((names.zip drafts).map (·.1)).Nodup := by
      rw [map_fst_zip]
      exact hnames.sublist (List.take_sublist ..)
    refine List.Pairwise.imp ?_ (List.pairwise_map.mp hnodup)
    intro first later hne _
    exact hne
  others member hmember hname := absurd (List.of_mem_zip hmember).1 hname

end Members

/-! ## Fields -/

namespace Field

variable {σ α β : Type} {room : Nat} {field : Field σ} {fields : List (Field σ)}
  {given others : String → Option Draft} {record last : σ} {draft : Draft}

/-- The values that are given for some names are decoded into a record in the order of its
fields. -/
def place (room : Nat) (given : String → Option Draft) : List (Field σ) → σ → Except JsonError σ
  | [], record => .ok record
  | field :: fields, record =>
    match given field.name with
    | some draft => field.decode room draft record >>= place room given fields
    | none => place room given fields record

/-- It does not matter which of two fields is decoded first. -/
def Commutes (first second : Field σ) : Prop :=
  ∀ room draft other record last,
    (∃ next, first.decode room draft record = .ok next ∧ second.decode room other next = .ok last) ↔
    ∃ next, second.decode room other record = .ok next ∧ first.decode room draft next = .ok last

/-- Fields that change different parts of a record do not disturb each other. -/
theorem commutes_of_set {first second : Field σ} {decode : Decoder α} {decode' : Decoder β}
    {set : σ → α → σ} {set' : σ → β → σ}
    (hfirst : first.decode = fun room draft record => (decode room draft).map (set record))
    (hsecond : second.decode = fun room draft record => (decode' room draft).map (set' record))
    (h : ∀ record a b, set' (set record a) b = set (set' record b) a) : Commutes first second := by
  intro room draft other record last
  simp only [hfirst, hsecond, map_eq_ok_iff]
  constructor
  · rintro ⟨_, ⟨a, ha, rfl⟩, b, hb, rfl⟩
    exact ⟨_, ⟨b, hb, rfl⟩, a, ha, (h record a b).symm⟩
  · rintro ⟨_, ⟨b, hb, rfl⟩, a, ha, rfl⟩
    exact ⟨_, ⟨a, ha, rfl⟩, b, hb, h record a b⟩

theorem place_of_some (h : given field.name = some draft) :
    place room given (field :: fields) record =
      field.decode room draft record >>= place room given fields := by
  rw [place, h]

theorem place_of_none (h : given field.name = none) :
    place room given (field :: fields) record = place room given fields record := by
  rw [place, h]

/-- Only what is given for the names of the fields matters. -/
theorem place_congr (h : ∀ field ∈ fields, given field.name = others field.name) :
    place room given fields record = place room others fields record := by
  induction fields generalizing record with
  | nil => rfl
  | cons field fields ih =>
      obtain ⟨hfield, hfields⟩ := List.forall_mem_cons.mp h
      cases hgiven : others field.name with
      | none => rw [place_of_none (hfield.trans hgiven), place_of_none hgiven, ih hfields]
      | some draft =>
          rw [place_of_some (hfield.trans hgiven), place_of_some hgiven]
          exact congrArg _ (funext fun next => ih hfields)

/-- Nothing is placed if nothing is given. -/
theorem place_none (h : ∀ field ∈ fields, given field.name = none) :
    place room given fields record = .ok record := by
  induction fields with
  | nil => rfl
  | cons field fields ih =>
      obtain ⟨hfield, hfields⟩ := List.forall_mem_cons.mp h
      rw [place_of_none hfield, ih hfields]

/-- One of the values that are given may as well be decoded before all others. -/
theorem place_eq_ok_iff_first (hnames : (fields.map (·.name)).Nodup)
    (hcommutes : fields.Pairwise Commutes) (hfield : field ∈ fields)
    (hgiven : given field.name = some draft) (hother : others field.name = none)
    (hothers : ∀ name ≠ field.name, others name = given name) :
    place room given fields record = .ok last ↔
      ∃ next, field.decode room draft record = .ok next ∧
        place room others fields next = .ok last := by
  induction fields generalizing record with
  | nil => exact absurd hfield List.not_mem_nil
  | cons head fields ih =>
      rw [List.map_cons, List.nodup_cons] at hnames
      obtain ⟨hnew, hnames⟩ := hnames
      obtain ⟨hhead, hcommutes⟩ := List.pairwise_cons.mp hcommutes
      rcases List.mem_cons.mp hfield with rfl | hfield
      · have hrest : ∀ other ∈ fields, given other.name = others other.name := by
          intro other hmem
          refine (hothers _ fun hsame => hnew ?_).symm
          exact hsame ▸ List.mem_map_of_mem hmem
        rw [place_of_some hgiven, bind_eq_ok_iff]
        refine exists_congr fun next => and_congr_right fun _ => ?_
        rw [place_of_none hother, place_congr hrest]
      · have hdistinct : head.name ≠ field.name := fun hsame =>
          hnew (hsame ▸ List.mem_map_of_mem hfield)
        have hsame : others head.name = given head.name := hothers _ hdistinct
        cases hvalue : given head.name with
        | none =>
            simp only [place_of_none hvalue, place_of_none (hsame.trans hvalue)]
            exact ih hnames hcommutes hfield
        | some value =>
            simp only [place_of_some hvalue, place_of_some (hsame.trans hvalue), bind_eq_ok_iff]
            simp only [ih hnames hcommutes hfield]
            have hswap := hhead field hfield room value draft record
            constructor
            · rintro ⟨first, hfirst, next, hnext, hlast⟩
              obtain ⟨second, hsecond, hnext⟩ := (hswap next).mp ⟨first, hfirst, hnext⟩
              exact ⟨second, hsecond, next, hnext, hlast⟩
            · rintro ⟨second, hsecond, next, hnext, hlast⟩
              obtain ⟨first, hfirst, hnext⟩ := (hswap next).mpr ⟨second, hsecond, hnext⟩
              exact ⟨first, hfirst, next, hnext, hlast⟩

/-- The value of a field whose name comes first may as well be decoded first. -/
theorem place_cons_iff {members : Members Draft} (hnames : (fields.map (·.name)).Nodup)
    (hcommutes : fields.Pairwise Commutes) (hfield : field ∈ fields)
    (hnew : field.name ∉ members.map (·.1)) :
    place room (Members.get? ((field.name, draft) :: members)) fields record = .ok last ↔
      ∃ next, field.decode room draft record = .ok next ∧
        place room members.get? fields next = .ok last := by
  refine place_eq_ok_iff_first hnames hcommutes hfield ?_ (Members.get?_eq_none_iff.mpr hnew) ?_
  · rw [Members.get?_cons, if_pos rfl]
  · intro name hne
    rw [Members.get?_cons, if_neg hne.symm]

/-- A value whose name is that of no field is not placed. -/
theorem place_cons_of_unknown {members : Members Draft} {name : String}
    (hname : name ∉ fields.map (·.name)) :
    place room (Members.get? ((name, draft) :: members)) fields record =
      place room members.get? fields record := by
  refine place_congr fun field hfield => ?_
  rw [Members.get?_cons, if_neg]
  rintro rfl
  exact hname (List.mem_map_of_mem hfield)

end Field

/-! ## Reading records -/

/-- An object of members that fit, or an array of the values of the first names. -/
def Form.record (names : List String) : Form (Members Draft) := fun draft members =>
  draft = .ofMembers members ∧ members.Fits names ∨
    ∃ drafts, draft = .array drafts none ∧ drafts.length ≤ names.length ∧
      members = names.zip drafts

/-- Different members have different drafts. -/
theorem Draft.of_members_inj {members others : Members Draft}
    (h : Draft.ofMembers members = Draft.ofMembers others) : members = others := by
  have hkeyed : Draft.keyed members = Draft.keyed others := (Draft.object.inj h).1
  refine List.map_injective_iff.mpr ?_ hkeyed
  intro member other hsame
  obtain ⟨hname, hvalue⟩ := Prod.mk.inj hsame
  exact Prod.ext (Draft.string.inj hname) hvalue

/-- An object is a record with the members it has, if they fit. -/
theorem Form.record_of_members_iff {names : List String} {members others : Members Draft} :
    Form.record names (.ofMembers members) others ↔ others = members ∧ members.Fits names := by
  constructor
  · rintro (⟨hdraft, hfits⟩ | ⟨_, hdraft, -⟩)
    · obtain rfl := Draft.of_members_inj hdraft
      exact ⟨rfl, hfits⟩
    · cases hdraft
  · rintro ⟨rfl, hfits⟩
    exact .inl ⟨rfl, hfits⟩

namespace Decoder

variable {σ α : Type} {room : Nat} {fields : List (Field σ)} {record last : σ}
  {members : Members Draft} {seen known : List String}

/-- Only members whose keys can be read are read. -/
theorem keyed_of_record_members {unknown : Draft → Except JsonError Unit}
    {drafts : List (Draft × Draft)}
    (h : recordMembers unknown fields room seen record drafts = .ok (known, last)) :
    ∃ members, drafts = Draft.keyed members := by
  induction drafts generalizing seen record with
  | nil => exact ⟨[], rfl⟩
  | cons member drafts ih =>
      obtain ⟨key, draft⟩ := member
      obtain ⟨name, hname, hrest⟩ := bind_eq_ok_iff.mp h
      obtain rfl := (exact_string 0 (Nat.le_refl 0) _ _).mp hname
      have hkeyed : ∃ members, drafts = Draft.keyed members := by
        split at hrest
        next =>
          split at hrest
          next => cases hrest
          next =>
            obtain ⟨next, -, hrest⟩ := bind_eq_ok_iff.mp hrest
            exact ih hrest
        next =>
          obtain ⟨-, -, hrest⟩ := bind_eq_ok_iff.mp hrest
          exact ih hrest
      obtain ⟨members, rfl⟩ := hkeyed
      exact ⟨(name, draft) :: members, rfl⟩

/-- The names of fields that are seen are those that were seen before and those of members. -/
theorem mem_known_iff
    (h : recordMembers skip fields room seen record (Draft.keyed members) = .ok (known, last))
    {field : Field σ} (hfield : field ∈ fields) :
    field.name ∈ known ↔ field.name ∈ seen ∨ field.name ∈ members.map (·.1) := by
  induction members generalizing seen record with
  | nil =>
      cases h
      simp
  | cons member members ih =>
      obtain ⟨name, draft⟩ := member
      cases hfind : fields.find? (·.name == name) with
      | some found =>
          by_cases hseen : name ∈ seen
          · rw [Draft.keyed, List.map_cons, record_members_of_seen hfind hseen] at h
            cases h
          · rw [Draft.keyed, List.map_cons, record_members_of_new hfind hseen] at h
            obtain ⟨next, -, hrest⟩ := bind_eq_ok_iff.mp h
            rw [ih hrest, List.map_cons, List.mem_cons, List.mem_cons]
            tauto
      | none =>
          have hother : field.name ≠ name := by
            simpa using List.find?_eq_none.mp hfind field hfield
          rw [Draft.keyed, List.map_cons, record_members_of_unknown hfind] at h
          obtain ⟨-, -, hrest⟩ := bind_eq_ok_iff.mp h
          rw [ih hrest, List.map_cons, List.mem_cons]
          simp [hother]

/-- A value can be skipped exactly if it has no fault. -/
theorem skip_eq_ok_iff {draft : Draft} {done : Unit} : skip draft = .ok done ↔ draft.Whole := by
  rw [← draft.skip_error_eq_none_iff, skip]
  cases draft.skipError? <;> simp

/-- Members can be read exactly if they fit after those that have come before, and their values can
be placed. -/
theorem record_members_iff (hnames : (fields.map (·.name)).Nodup)
    (hcommutes : fields.Pairwise Field.Commutes) :
    (∃ known, recordMembers skip fields room seen record (Draft.keyed members) =
      .ok (known, last)) ↔
      members.FitsAfter (fields.map (·.name)) seen ∧
        Field.place room members.get? fields record = .ok last := by
  induction members generalizing seen record with
  | nil =>
      rw [Field.place_none fun _ _ => rfl]
      constructor
      · rintro ⟨known, hread⟩
        cases hread
        exact ⟨trivial, rfl⟩
      · rintro ⟨-, hlast⟩
        cases hlast
        exact ⟨seen, rfl⟩
  | cons member members ih =>
      obtain ⟨name, draft⟩ := member
      rw [Draft.keyed, List.map_cons, Members.FitsAfter]
      cases hfind : fields.find? (·.name == name) with
      | some field =>
          obtain rfl : field.name = name := by simpa using List.find?_some hfind
          have hfield := List.mem_of_find?_eq_some hfind
          have hname : field.name ∈ fields.map (·.name) := List.mem_map_of_mem hfield
          rw [if_pos hname]
          by_cases hseen : field.name ∈ seen
          · rw [record_members_of_seen hfind hseen]
            exact iff_of_false nofun fun h => h.1.1 hseen
          · -- The value may be decoded first, since no later member has its name.
            have hplace
                (h : Members.FitsAfter (fields.map (·.name)) (field.name :: seen) members) :=
              @Field.place_cons_iff _ room field fields record last draft members hnames hcommutes
                hfield fun hmem => (Members.fits_after_iff.mp h).2 _ hname hmem List.mem_cons_self
            rw [record_members_of_new hfind hseen]
            constructor
            · rintro ⟨known, hread⟩
              obtain ⟨next, hnext, hrest⟩ := bind_eq_ok_iff.mp hread
              obtain ⟨hfits, hlast⟩ := ih.mp ⟨known, hrest⟩
              exact ⟨⟨hseen, hfits⟩, (hplace hfits).mpr ⟨next, hnext, hlast⟩⟩
            · rintro ⟨⟨-, hfits⟩, hlast⟩
              obtain ⟨next, hnext, hlast⟩ := (hplace hfits).mp hlast
              obtain ⟨known, hread⟩ := ih.mpr ⟨hfits, hlast⟩
              exact ⟨known, bind_eq_ok_iff.mpr ⟨next, hnext, hread⟩⟩
      | none =>
          have hname : name ∉ fields.map (·.name) := by simpa using hfind
          rw [record_members_of_unknown hfind, Field.place_cons_of_unknown hname, if_neg hname]
          constructor
          · rintro ⟨known, hread⟩
            obtain ⟨_, hskip, hrest⟩ := bind_eq_ok_iff.mp hread
            obtain ⟨hfits, hlast⟩ := ih.mp ⟨known, hrest⟩
            exact ⟨⟨skip_eq_ok_iff.mp hskip, hfits⟩, hlast⟩
          · rintro ⟨⟨hdraft, hfits⟩, hlast⟩
            obtain ⟨known, hread⟩ := ih.mpr ⟨hfits, hlast⟩
            have hskip : skip draft = .ok () := skip_eq_ok_iff.mpr hdraft
            exact ⟨known, bind_eq_ok_iff.mpr ⟨(), hskip, hread⟩⟩

/-- The items of an array can be read exactly if there are not too many, no field that must be there
is missing, and they can be placed under the names of the first fields. -/
theorem record_items_iff (hnames : (fields.map (·.name)).Nodup) {ending : Option Fault}
    {drafts : List Draft} :
    recordItems room ending fields record drafts = .ok last ↔
      ending = none ∧ drafts.length ≤ fields.length ∧
      (∀ field ∈ fields, field.required →
        field.name ∈ ((fields.map (·.name)).zip drafts).map (·.1)) ∧
      Field.place room (Members.get? ((fields.map (·.name)).zip drafts)) fields record =
        .ok last := by
  induction fields generalizing record drafts with
  | nil =>
      cases drafts with
      | nil =>
          rw [recordItems, map_eq_ok_iff]
          simp [close_eq_ok_iff, Field.place]
      | cons draft drafts => exact iff_of_false nofun fun h => absurd h.2.1 (by simp)
  | cons field fields ih =>
      rw [List.map_cons, List.nodup_cons] at hnames
      obtain ⟨hnew, hnames⟩ := hnames
      cases drafts with
      | nil =>
          rw [recordItems, bind_eq_ok_iff, List.zip_nil_right, Field.place_none fun _ _ => rfl]
          constructor
          · rintro ⟨_, hclose, hread⟩
            split at hread
            next => cases hread
            next hnone =>
              refine ⟨close_eq_ok_iff.mp hclose, Nat.zero_le _, fun other hother hmust => ?_, hread⟩
              exact absurd (List.any_eq_true.mpr ⟨other, hother, hmust⟩) hnone
          · rintro ⟨rfl, -, hrequired, hlast⟩
            refine ⟨(), rfl, ?_⟩
            rw [if_neg, hlast]
            intro hany
            obtain ⟨other, hother, hmust⟩ := List.any_eq_true.mp hany
            exact absurd (hrequired other hother hmust) List.not_mem_nil
      | cons draft drafts =>
          have hgiven : Members.get? ((field.name, draft) :: (fields.map (·.name)).zip drafts)
              field.name = some draft := by
            rw [Members.get?_cons, if_pos rfl]
          have hrequired (names : List String) :
              (∀ other ∈ fields, other.required → other.name ∈ field.name :: names) ↔
                ∀ other ∈ fields, other.required → other.name ∈ names := by
            refine forall₂_congr fun other hother => imp_congr_right fun _ => ?_
            have hne : other.name ≠ field.name := fun hsame =>
              hnew (List.mem_map.mpr ⟨other, hother, hsame⟩)
            rw [List.mem_cons, or_iff_right hne]
          rw [recordItems, List.map_cons, List.zip_cons_cons, List.map_cons,
            Field.place_of_some hgiven, bind_eq_ok_iff, bind_eq_ok_iff, List.forall_mem_cons,
            hrequired]
          simp only [ih hnames, Field.place_cons_of_unknown hnew]
          constructor
          · rintro ⟨next, hnext, hending, hlength, hfields, hlast⟩
            exact ⟨hending, Nat.succ_le_succ hlength, ⟨fun _ => List.mem_cons_self, hfields⟩, next,
              hnext, hlast⟩
          · rintro ⟨hending, hlength, ⟨-, hfields⟩, next, hnext, hlast⟩
            exact ⟨next, hnext, hending, Nat.le_of_succ_le_succ hlength, hfields, hlast⟩

/-- After members no field is missing exactly if those that must be there are among them. -/
theorem none_missing_iff
    (h : recordMembers skip fields room [] record (Draft.keyed members) = .ok (known, last)) :
    ¬ (fields.any fun field => field.required && !known.contains field.name) ↔
      ∀ field ∈ fields, field.required → field.name ∈ members.map (·.1) := by
  have hknown : ¬ (fields.any fun field => field.required && !known.contains field.name) ↔
      ∀ field ∈ fields, field.required → field.name ∈ known := by
    simp
  rw [hknown]
  refine forall₂_congr fun field hfield => imp_congr_right fun _ => ?_
  rw [mem_known_iff h hfield, or_iff_right List.not_mem_nil]

/-- An object can be read exactly if its members fit and can be placed, and no field that must be
there is missing. -/
theorem record_object_iff (hnames : (fields.map (·.name)).Nodup)
    (hcommutes : fields.Pairwise Field.Commutes) {drafts : List (Draft × Draft)}
    {ending : Option Fault} :
    Decoder.record fields record (room + 1) (.object drafts ending) = .ok last ↔
      ∃ members, drafts = Draft.keyed members ∧ ending = none ∧
        members.Fits (fields.map (·.name)) ∧
        (∀ field ∈ fields, field.required → field.name ∈ members.map (·.1)) ∧
        Field.place room members.get? fields record = .ok last := by
  rw [Decoder.record, recordWith, enter, bind_eq_ok_iff]
  constructor
  · rintro ⟨⟨known, read⟩, hread, hrest⟩
    obtain ⟨_, hclose, hrest⟩ := bind_eq_ok_iff.mp hrest
    split at hrest
    next => cases hrest
    next hall =>
      cases hrest
      obtain ⟨members, rfl⟩ := keyed_of_record_members hread
      obtain ⟨hfits, hlast⟩ := (record_members_iff hnames hcommutes).mp ⟨known, hread⟩
      exact ⟨members, rfl, close_eq_ok_iff.mp hclose, (Members.fits_after_iff.mp hfits).1,
        (none_missing_iff hread).mp hall, hlast⟩
  · rintro ⟨members, rfl, rfl, hfits, hall, hlast⟩
    have hstart := Members.fits_after_iff.mpr ⟨hfits, fun _ _ _ => List.not_mem_nil⟩
    obtain ⟨known, hread⟩ := (record_members_iff hnames hcommutes).mpr ⟨hstart, hlast⟩
    refine ⟨(known, last), hread, ?_⟩
    exact if_neg ((none_missing_iff hread).mpr hall)

/-- A record can be read exactly if its members can be placed and no field that must be there is
missing. -/
theorem record_eq_ok_iff (hnames : (fields.map (·.name)).Nodup)
    (hcommutes : fields.Pairwise Field.Commutes) {draft : Draft} :
    Decoder.record fields record (room + 1) draft = .ok last ↔
      ∃ members, Form.record (fields.map (·.name)) draft members ∧
        (∀ field ∈ fields, field.required → field.name ∈ members.map (·.1)) ∧
        Field.place room members.get? fields record = .ok last := by
  unfold Form.record
  cases draft with
  | object drafts ending =>
      rw [record_object_iff hnames hcommutes]
      constructor
      · rintro ⟨members, rfl, rfl, hfits, hplace⟩
        exact ⟨members, .inl ⟨rfl, hfits⟩, hplace⟩
      · rintro ⟨members, ⟨hdraft, hfits⟩ | ⟨_, hdraft, -⟩, hplace⟩
        · cases hdraft
          exact ⟨members, rfl, rfl, hfits, hplace⟩
        · cases hdraft
  | array drafts ending =>
      rw [Decoder.record, recordWith, enter, record_items_iff hnames]
      constructor
      · rintro ⟨rfl, hlength, hplace⟩
        exact ⟨_, .inr ⟨drafts, rfl, by rwa [List.length_map], rfl⟩, hplace⟩
      · rintro ⟨members, ⟨hdraft, -⟩ | ⟨_, hdraft, hlength, rfl⟩, hplace⟩
        · cases hdraft
        · cases hdraft
          exact ⟨rfl, by rwa [List.length_map] at hlength, hplace⟩
  | _ =>
      constructor
      · rintro ⟨⟩
      · rintro ⟨members, ⟨hdraft, -⟩ | ⟨drafts, hdraft, -⟩, -⟩ <;> cases hdraft

/-- The order of the members does not matter to what is read. -/
theorem record_of_perm (hnames : (fields.map (·.name)).Nodup)
    (hcommutes : fields.Pairwise Field.Commutes) {others : Members Draft}
    (hperm : members.Perm others)
    (h : Decoder.record fields record (room + 1) (.ofMembers members) = .ok last) :
    Decoder.record fields record (room + 1) (.ofMembers others) = .ok last := by
  rw [record_eq_ok_iff hnames hcommutes] at h ⊢
  obtain ⟨found, hrecord, hrequired, hlast⟩ := h
  obtain ⟨rfl, hfits⟩ := Form.record_of_members_iff.mp hrecord
  have hplace : Field.place room others.get? fields record = .ok last := by
    rw [← hlast]
    exact Field.place_congr fun field hfield =>
      (hfits.get?_perm hperm (List.mem_map_of_mem hfield)).symm
  refine ⟨others, Form.record_of_members_iff.mpr ⟨rfl, hfits.perm hperm⟩, ?_, hplace⟩
  intro field hfield hmust
  exact (hperm.map _).mem_iff.mp (hrequired field hfield hmust)

end Decoder

/-! ## Fields one by one -/

/-- The members of a record fit its fields. -/
theorem Form.record.fits {names : List String} {draft : Draft} {members : Members Draft}
    (h : Form.record names draft members) (hnames : names.Nodup) : members.Fits names := by
  rcases h with ⟨-, hfits⟩ | ⟨drafts, -, -, rfl⟩
  · exact hfits
  · exact Members.fits_zip hnames drafts

namespace Field

variable {σ α : Type} {room depth : Nat} {field : Field σ} {fields : List (Field σ)}
  {record last : σ} {members : Members Draft} {names : List String} {name : String}
  {decode : Decoder α} {form : Form α} {set : σ → α → σ}

/-- A field whose name has a value takes what the value is read as. -/
theorem place_given_iff (h : members.Fits names) (hname : field.name ∈ names)
    (hfield : field.decode = fun room draft record => (decode room draft).map (set record))
    (hdecode : decode.Exact depth form) (hroom : depth ≤ room)
    (hgiven : field.name ∈ members.map (·.1)) :
    place room members.get? (field :: fields) record = .ok last ↔
      ∃ a, members.Gives field.name form (some a) ∧
        place room members.get? fields (set record a) = .ok last := by
  obtain ⟨⟨_, draft⟩, hmember, rfl⟩ := List.mem_map.mp hgiven
  have hvalue := (h.get?_eq_some_iff hname).mpr hmember
  rw [place_of_some hvalue, bind_eq_ok_iff, hfield]
  constructor
  · rintro ⟨next, hnext, hlast⟩
    obtain ⟨a, ha, rfl⟩ := map_eq_ok_iff.mp hnext
    exact ⟨a, ⟨draft, hmember, (hdecode room hroom draft a).mp ha⟩, hlast⟩
  · rintro ⟨a, ⟨other, hother, ha⟩, hlast⟩
    have hsame := (h.get?_eq_some_iff hname).mpr hother
    obtain rfl : draft = other := Option.some.inj (hvalue.symm.trans hsame)
    exact ⟨_, map_eq_ok_iff.mpr ⟨a, (hdecode room hroom draft a).mpr ha, rfl⟩, hlast⟩

/-- A mandatory field takes the value that is given for it. -/
theorem place_mandatory_iff (h : members.Fits names) (hname : name ∈ names)
    (hdecode : decode.Exact depth form) (hroom : depth ≤ room)
    (hgiven : name ∈ members.map (·.1)) :
    place room members.get? (.mandatory name decode set :: fields) record = .ok last ↔
      ∃ a, members.Gives name form (some a) ∧
        place room members.get? fields (set record a) = .ok last :=
  place_given_iff h hname rfl hdecode hroom hgiven

/-- An optional field takes the value that is given for it, if there is one, and keeps its own
otherwise. -/
theorem place_optional_iff (h : members.Fits names) (hname : name ∈ names)
    (hdecode : decode.Exact depth form) (hroom : depth ≤ room) (get : σ → α)
    (hget : ∀ record, set record (get record) = record) :
    place room members.get? (.optional name decode set :: fields) record = .ok last ↔
      ∃ value, members.Gives name form value ∧
        place room members.get? fields (set record (value.getD (get record))) = .ok last := by
  by_cases hgiven : name ∈ members.map (·.1)
  · have hplace : place room members.get? (.optional name decode set :: fields) record = .ok last ↔
        ∃ a, members.Gives name form (some a) ∧
          place room members.get? fields (set record a) = .ok last :=
      place_given_iff h hname rfl hdecode hroom hgiven
    rw [hplace]
    constructor
    · rintro ⟨a, ha, hlast⟩
      exact ⟨some a, ha, hlast⟩
    · rintro ⟨_ | a, ha, hlast⟩
      · exact absurd hgiven ha
      · exact ⟨a, ha, hlast⟩
  · have hplace : place room members.get? (.optional name decode set :: fields) record =
        place room members.get? fields record :=
      place_of_none (Members.get?_eq_none_iff.mpr hgiven)
    rw [hplace]
    constructor
    · intro hlast
      exact ⟨none, hgiven, by rwa [Option.getD_none, hget]⟩
    · rintro ⟨_ | a, hvalue, hlast⟩
      · rwa [Option.getD_none, hget] at hlast
      · exact absurd hvalue.mem hgiven

end Field

end StatsBoard
