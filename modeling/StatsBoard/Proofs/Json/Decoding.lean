import StatsBoard.Proofs.Json.Printing

/-!
# Decoding printed values

A decoder reads a value back from the draft of what was printed of it: `Decoder.Reads`. There is a
lemma for every way in which decoders are made. A record reads its members if they follow the
fields: each member belongs to the next field, and fields without a member keep the value they have
(`Fills`, `reads_record`).
-/

namespace StatsBoard

namespace Decoder

open Json

variable {α β γ σ : Type} {room : Nat}

/-- The decoder reads a printed value as `a`. -/
def Reads (decode : Decoder α) (room : Nat) (value : Json) (a : α) : Prop :=
  decode room value.toDraft = .ok a

/-! ## Single values -/

theorem reads_string (s : String) : string.Reads room (.string s) s :=
  rfl

theorem reads_bool (b : Bool) : bool.Reads room (.bool b) b :=
  rfl

theorem reads_real (x : Binary64) : real.Reads room (.number (.real x)) x :=
  rfl

theorem reads_integer {low high i : Int} (h : low ≤ i ∧ i ≤ high) :
    (integer low high).Reads room (.number (.integer i)) i :=
  if_pos h

theorem reads_natural {bound n : Nat} (h : n < bound) :
    (natural bound).Reads room (.ofNat n) n := by
  have hinteger : integer 0 (bound - 1) room (Json.ofNat n).toDraft = .ok (n : Int) :=
    reads_integer ⟨by omega, by omega⟩
  rw [Reads, natural, hinteger]
  rfl

theorem reads_option_some {decode : Decoder α} {value : Json} {a : α} (hvalue : value ≠ .null)
    (h : decode.Reads room value a) : (option decode).Reads room value (some a) := by
  have hdraft : value.toDraft ≠ .null := by
    cases value <;> simp_all [toDraft]
  unfold Reads option
  split
  · exact absurd ‹_› hdraft
  · rw [h]
    rfl

theorem reads_variant {choose : String → Option α} {name : String} {a : α}
    (h : choose name = some a) : (variant choose).Reads room (.string name) a := by
  unfold Reads variant
  simp only [toDraft, string, ok_bind, h]

/-! ## Lists and maps -/

theorem reads_list {decode : Decoder α} {encode : α → Json} {values : List α}
    (h : ∀ a ∈ values, decode.Reads room (encode a) a) :
    (list decode).Reads (room + 1) (.array (values.map encode)) values := by
  have hitems : items (decode room) (itemDrafts (values.map encode)) = .ok values := by
    induction values with
    | nil => rfl
    | cons a values ih =>
        obtain ⟨ha, hvalues⟩ := List.forall_mem_cons.mp h
        rw [List.map_cons, itemDrafts, items, ha, ih hvalues]
        rfl
  unfold Reads list
  simp only [toDraft, enter, hitems]
  rfl

theorem reads_strings (texts : List String) :
    (list string).Reads (room + 1) (.ofStrings texts) texts :=
  reads_list fun text _ => reads_string text

/-- A map is read by putting its members into it in order. -/
theorem reads_map {key : String → Option α} {decode : Decoder β} {empty : γ}
    {put : γ → α → β → γ} {name : α → String} {encode : β → Json} {members : List (α × β)}
    (hkey : ∀ member ∈ members, key (name member.1) = some member.1)
    (hvalue : ∀ member ∈ members, decode.Reads room (encode member.2) member.2) :
    (map key decode empty put).Reads (room + 1)
      (.object (members.map fun (a, b) => (name a, encode b)))
      (members.foldl (fun map member => put map member.1 member.2) empty) := by
  have hentries : entries key (decode room) put empty
      (memberDrafts (members.map fun (a, b) => (name a, encode b))) =
        .ok (members.foldl (fun map member => put map member.1 member.2) empty) := by
    induction members generalizing empty with
    | nil => rfl
    | cons member members ih =>
        obtain ⟨hname, hkey⟩ := List.forall_mem_cons.mp hkey
        obtain ⟨hfirst, hvalue⟩ := List.forall_mem_cons.mp hvalue
        rw [List.map_cons, memberDrafts, entries, string, ok_bind]
        simp only [hname]
        rw [hfirst, ok_bind, ih hkey hvalue, List.foldl_cons]
  unfold Reads map
  simp only [toDraft, enter, hentries]
  rfl

/-! ## Records -/

section Members

variable {unknown : Draft → Except JsonError Unit} {fields : List (Field σ)} {field : Field σ}
  {seen : List String} {record : σ} {name : String} {draft : Draft} {rest : List (Draft × Draft)}

/-- A member whose field has not come before. -/
theorem record_members_of_new (h : fields.find? (·.name == name) = some field)
    (hnew : name ∉ seen) :
    recordMembers unknown fields room seen record ((.string name, draft) :: rest) =
      field.decode room draft record >>= fun next =>
        recordMembers unknown fields room (name :: seen) next rest := by
  rw [recordMembers, string, ok_bind, h]
  exact if_neg (hnew ∘ List.contains_iff_mem.mp)

/-- A member whose field has come before. -/
theorem record_members_of_seen (h : fields.find? (·.name == name) = some field)
    (hseen : name ∈ seen) :
    recordMembers unknown fields room seen record ((.string name, draft) :: rest) =
      .error .mismatch := by
  rw [recordMembers, string, ok_bind, h]
  exact if_pos (List.contains_iff_mem.mpr hseen)

/-- A member that belongs to no field. -/
theorem record_members_of_unknown (h : fields.find? (·.name == name) = none) :
    recordMembers unknown fields room seen record ((.string name, draft) :: rest) =
      unknown draft >>= fun _ => recordMembers unknown fields room seen record rest := by
  rw [recordMembers, string, ok_bind, h]

end Members

/-- Members that follow the fields of a record take it from one value to another. -/
inductive Fills (room : Nat) : List (Field σ) → σ → List (String × Json) → σ → Prop
  | nil (record : σ) : Fills room [] record [] record
  | member {field : Field σ} {fields : List (Field σ)} {record next last : σ} {value : Json}
      {members : List (String × Json)} :
      field.decode room value.toDraft record = .ok next →
      Fills room fields next members last →
      Fills room (field :: fields) record ((field.name, value) :: members) last
  | missing {field : Field σ} {fields : List (Field σ)} {record last : σ}
      {members : List (String × Json)} :
      field.required = false →
      Fills room fields record members last →
      Fills room (field :: fields) record members last

section Filling

variable {fields : List (Field σ)} {record last : σ} {members : List (String × Json)}
  {decode : Decoder α} {name : String} {set : σ → α → σ}

/-- An optional field that is given. -/
theorem Fills.given {value : Json} {a : α} (h : decode.Reads room value a)
    (hrest : Fills room fields (set record a) members last) :
    Fills room (.optional name decode set :: fields) record ((name, value) :: members) last := by
  have hdecode : (Field.optional name decode set).decode room value.toDraft record =
      .ok (set record a) :=
    congrArg (Except.map (set record)) h
  exact .member hdecode hrest

/-- A mandatory field. -/
theorem Fills.mandatory {value : Json} {a : α} (h : decode.Reads room value a)
    (hrest : Fills room fields (set record a) members last) :
    Fills room (.mandatory name decode set :: fields) record ((name, value) :: members) last := by
  have hdecode : (Field.mandatory name decode set).decode room value.toDraft record =
      .ok (set record a) :=
    congrArg (Except.map (set record)) h
  exact .member hdecode hrest

/-- An optional field that is left out if it has no value. -/
theorem Fills.perhaps {decode : Decoder α} {set : σ → Option α → σ} {encode : α → Json}
    {value : Option α}
    (h : ∀ a ∈ value, encode a ≠ .null ∧ decode.Reads room (encode a) a)
    (hnone : set record none = record)
    (hrest : Fills room fields (set record value) members last) :
    Fills room (.optional name (.option decode) set :: fields) record
      ((value.map fun a => (name, encode a)).toList ++ members) last := by
  cases value with
  | none => exact .missing rfl (hnone ▸ hrest)
  | some a => exact .given (reads_option_some (h a rfl).1 (h a rfl).2) hrest

/-- The name of a field is not the name of another field before it. -/
theorem name_not_mem {field : Field σ} {done : List (Field σ)}
    (hnames : ((done ++ field :: fields).map (·.name)).Nodup) :
    field.name ∉ done.map (·.name) := by
  rw [List.map_append, List.nodup_append] at hnames
  intro hmem
  exact hnames.2.2 _ hmem _ (by simp) rfl

/-- A field is found by its name. -/
theorem find_field {field : Field σ} {done : List (Field σ)}
    (hnames : ((done ++ field :: fields).map (·.name)).Nodup) :
    (done ++ field :: fields).find? (·.name == field.name) = some field := by
  have hbefore : ∀ other ∈ done, other.name ≠ field.name := fun other hother hname =>
    name_not_mem hnames (hname ▸ List.mem_map_of_mem hother)
  refine List.find?_eq_some_iff_append.mpr ⟨by simp, done, fields, rfl, ?_⟩
  simpa using hbefore

/-- Members that follow the fields of a record are read one after the other, in whatever fields
come before them. -/
theorem Fills.record_members (h : Fills room fields record members last)
    (done : List (Field σ)) (hnames : ((done ++ fields).map (·.name)).Nodup)
    (seen : List String) (hseen : ∀ name ∈ seen, name ∈ done.map (·.name)) :
    ∃ known,
      recordMembers skip (done ++ fields) room seen record (memberDrafts members) =
        .ok (known, last) ∧
      (∀ name ∈ seen, name ∈ known) ∧ ∀ field ∈ fields, field.required → field.name ∈ known := by
  induction h generalizing done seen with
  | nil record => exact ⟨seen, rfl, fun _ h => h, fun _ h => nomatch h⟩
  | @member field fields record next last value members hdecode _ ih =>
      have hnew : field.name ∉ seen := fun hmem => name_not_mem hnames (hseen _ hmem)
      have hseen' : ∀ name ∈ field.name :: seen, name ∈ (done ++ [field]).map (·.name) := by
        rintro name (_ | ⟨_, hname⟩)
        · simp
        · simpa using .inl (by simpa using hseen name hname)
      rw [List.append_cons] at hnames ⊢
      obtain ⟨known, hmembers, hkept, hrequired⟩ := ih _ hnames _ hseen'
      refine ⟨known, ?_, fun name hname => hkept name (.tail _ hname), ?_⟩
      · rw [← List.append_cons] at hnames hmembers ⊢
        rw [memberDrafts, record_members_of_new (find_field hnames) hnew, hdecode]
        exact hmembers
      · rintro other (_ | ⟨_, hother⟩) hother'
        · exact hkept _ List.mem_cons_self
        · exact hrequired other hother hother'
  | @missing field fields record last members hoptional _ ih =>
      have hseen' : ∀ name ∈ seen, name ∈ (done ++ [field]).map (·.name) := by
        intro name hname
        simpa using .inl (by simpa using hseen name hname)
      rw [List.append_cons] at hnames ⊢
      obtain ⟨known, hmembers, hkept, hrequired⟩ := ih _ hnames _ hseen'
      refine ⟨known, hmembers, hkept, ?_⟩
      rintro other (_ | ⟨_, hother⟩) hother'
      · simp [hoptional] at hother'
      · exact hrequired other hother hother'

/-- A record reads members that follow its fields. -/
theorem reads_record (hnames : (fields.map (·.name)).Nodup)
    (h : Fills room fields record members last) :
    (Decoder.record fields record).Reads (room + 1) (.object members) last := by
  obtain ⟨known, hmembers, -, hrequired⟩ := h.record_members [] hnames [] (by simp)
  have hcomplete :
      fields.any (fun field => field.required && !known.contains field.name) = false := by
    simpa using hrequired
  rw [List.nil_append] at hmembers
  rw [Reads, toDraft, Decoder.record, recordWith]
  simp only [enter, hmembers, ok_bind, close, hcomplete]
  rfl

end Filling

end Decoder

namespace Json

variable {α : Type} {decode : Decoder α} {value : Json} {a : α}

/-- What a decoder reads of a value it reads in the compact text of the value. -/
theorem read_compact (h : decode.Reads Decoder.maxDepth value a)
    (hnumbers : ∀ n ∈ value.numbers, ReadsBack n) : read decode value.compact = .ok a := by
  rw [read, draft_compact hnumbers, h]
  rfl

/-- What a decoder reads of a value it reads in the indented text of the value. -/
theorem read_pretty (h : decode.Reads Decoder.maxDepth value a)
    (hnumbers : ∀ n ∈ value.numbers, ReadsBack n) : read decode value.pretty = .ok a := by
  rw [read, draft_pretty hnumbers, h]
  rfl

end Json

end StatsBoard
