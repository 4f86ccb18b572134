import StatsBoard.Proofs.Binary64
import StatsBoard.Proofs.Json.Printing

/-!
# Numbers that are read

Whatever a text holds, the numbers that are read of it are proper: integers of 64 bits, or finite
numbers (`proper_draft`). This is followed through the reader: one character keeps the digits of a
number within 64 bits, one token keeps the drafts of the open containers proper. What a decoder
yields on proper drafts is said by `Decoder.Yields`, with a lemma for every way in which decoders
are made.
-/

namespace StatsBoard

/-- An integer of 64 bits or a finite number. -/
def Number.Proper : Number → Prop
  | integer value => inRange value
  | real value => value.isFinite

/-- A proper number is near a finite binary64 number. -/
theorem Number.Proper.is_finite {n : Number} (h : n.Proper) : n.toBinary64.isFinite := by
  cases n with
  | integer i =>
      have hrange : -(2 ^ 63 : Int) ≤ i ∧ i < 2 ^ 64 := by
        simpa [Proper, inRange] using h
      exact (Binary64.within_of_int (by omega)).is_finite (by decide)
  | real x => exact h

/-- All numbers of the draft that may be read are proper. -/
inductive Draft.Proper : Draft → Prop
  | null : Proper .null
  | bool (b : Bool) : Proper (.bool b)
  | number {n : Number} (h : n.Proper) : Proper (.number n)
  | string (s : String) : Proper (.string s)
  | unreadable : Proper .unreadable
  | broken (fault : Fault) : Proper (.broken fault)
  | array {items : List Draft} {ending : Option Fault} (h : ∀ item ∈ items, item.Proper) :
      Proper (.array items ending)
  | object {members : List (Draft × Draft)} {ending : Option Fault}
      (h : ∀ member ∈ members, member.2.Proper) : Proper (.object members ending)

namespace Json

open Text

/-! ## Characters -/

/-- What a scaled number comes to is finite, if there are enough steps between it and the largest
number. -/
theorem finite_of_scale {fuel k : Nat} {x y : Binary64} {exponent : Int}
    (h : scaleByPower? fuel x exponent = some y) (hx : x.Within k) (hk : k + 4 * fuel ≤ 1016) :
    y.isFinite := by
  induction fuel generalizing x k exponent with
  | zero =>
      rw [scaleByPower?] at h
      cases h
      exact hx.is_finite (by omega)
  | succ fuel ih =>
      rw [scaleByPower?] at h
      split at h
      · rename_i hpower
        obtain ⟨hfinite, hzero, hone⟩ := Binary64.power_of_ten hpower
        split at h
        · exact (Option.filter_eq_some_iff.mp h).2
        · cases h
          exact (hx.div (by omega) hfinite hzero hone).is_finite (by omega)
      · split at h
        · cases h
          exact hx.is_finite (by omega)
        · split at h
          · cases h
          · obtain ⟨hfinite, hzero, hone⟩ := @Binary64.power_of_ten 308 (by decide)
            exact ih h (hx.div (by omega) hfinite hzero hone) (by omega)

/-- The absolute value of a number whose digits fit 64 bits is finite. -/
theorem finite_absolute {parts : NumberParts} {x : Binary64}
    (h : parts.significand < UInt64.size) (hx : parts.absolute? = some x) : x.isFinite := by
  have hstart : (Binary64.nearest false parts.significand 1).Within 64 :=
    Binary64.within_nearest _ (Nat.mul_one _ ▸ Nat.le_of_lt h) (by decide)
  exact finite_of_scale hx hstart (by decide)

/-- The draft of a number whose digits fit 64 bits is proper. -/
theorem proper_number_draft {parts : NumberParts} (h : parts.significand < UInt64.size) :
    parts.draft.Proper := by
  unfold NumberParts.draft
  extract_lets integer
  split
  · rename_i hinteger
    rw [Bool.and_eq_true, Bool.and_eq_true] at hinteger
    exact .number hinteger.1.2
  · split
    · rename_i x hx
      have hfinite := finite_absolute h hx
      refine .number ?_
      rw [Number.Proper, Binary64.isFinite, Binary64.magnitude_of_magnitude]
      · exact hfinite
      · exact Nat.lt_trans (of_decide_eq_true hfinite) (by decide)
    · exact .unreadable

/-- A token whose draft is proper. -/
def Token.Proper : Token → Prop
  | .bare draft | .quoted draft => draft.Proper
  | _ => True

/-- A state in which only proper drafts can arise. -/
def LexState.Proper : LexState → Prop
  | .word _ value => value.Proper
  | .number _ parts => parts.significand < UInt64.size
  | .between | .string .. => True

/-- A character that begins a token. -/
theorem proper_begin_token {c : Char} {tokens : List Token} {state : LexState}
    (h : beginToken c = some (tokens, state)) :
    (∀ token ∈ tokens, token.Proper) ∧ state.Proper := by
  have hdigit : isDigit c → digitValue c < UInt64.size := by
    intro hc
    have hcode : c.toNat < UInt64.size := Nat.lt_of_le_of_lt (is_digit_iff.mp hc).2 (by decide)
    exact Nat.lt_of_le_of_lt (Nat.sub_le ..) hcode
  unfold beginToken at h
  repeat' split at h
  all_goals cases h
  all_goals first
    | exact ⟨nofun, hdigit ‹_›⟩
    | simp [Token.Proper, LexState.Proper, Draft.Proper.null, Draft.Proper.bool]

/-- A string that is finished has a proper draft. -/
theorem proper_finished_string {reversed : List Char} {lone : Bool} {escape : EscapePhase}
    {c : Char} {draft : Draft} (h : stringStep reversed lone escape c = .finished draft) :
    draft.Proper := by
  unfold stringStep plainStep backslashStep at h
  repeat' split at h
  all_goals cases h
  all_goals first | exact .unreadable | exact .string _

/-- Further digits stay within 64 bits. -/
theorem number_step_lt {phase next : NumberPhase} {parts more : NumberParts} {c : Char}
    (hstep : numberStep phase parts c = some (next, more)) (h : parts.significand < UInt64.size) :
    more.significand < UInt64.size := by
  have hwhole : (parts.addWhole (digitValue c)).significand < UInt64.size := by
    unfold NumberParts.addWhole
    extract_lets longer
    split
    · exact h
    · rename_i hfits
      simp only [Bool.or_eq_true, decide_eq_true_eq, not_or, Nat.not_le] at hfits
      exact hfits.2
  have hfraction : (parts.addFraction (digitValue c)).significand < UInt64.size := by
    unfold NumberParts.addFraction
    extract_lets longer
    split
    · exact h
    · rename_i hfits
      simp only [Bool.or_eq_true, decide_eq_true_eq, not_or, Nat.not_le] at hfits
      exact hfits.2
  unfold numberStep at hstep
  repeat' split at hstep
  all_goals cases hstep
  all_goals first | exact h | exact hwhole | exact hfraction

theorem proper_malformed_token : malformedToken.Proper :=
  .broken _

theorem proper_broken_string {lone : Bool} {error : JsonError} :
    ∀ token ∈ brokenString lone error, token.Proper :=
  List.forall_mem_singleton.mpr (.broken _)

/-- The tokens of a text are proper. -/
theorem proper_tokens_from {state : LexState} {text : List Char} (h : state.Proper) :
    ∀ token ∈ tokensFrom state text, token.Proper := by
  fun_induction tokensFrom state text with
  | case1 => exact List.forall_mem_nil _
  | case2 => exact List.forall_mem_singleton.mpr (.broken _)
  | case3 => exact List.forall_mem_singleton.mpr (proper_number_draft h)
  | case4 => exact List.forall_mem_singleton.mpr (.broken _)
  | case5 => exact proper_broken_string
  | case6 c rest tokens state hbegin ih =>
      obtain ⟨htokens, hstate⟩ := proper_begin_token hbegin
      exact List.forall_mem_append.mpr ⟨htokens, ih hstate⟩
  | case7 => exact List.forall_mem_singleton.mpr proper_malformed_token
  | case8 => exact List.forall_mem_singleton.mpr proper_malformed_token
  | case9 value rest letter ih => exact List.forall_mem_cons.mpr ⟨h, ih trivial⟩
  | case10 value rest letter missing hmissing ih => exact ih h
  | case11 => exact List.forall_mem_singleton.mpr proper_malformed_token
  | case12 phase parts c rest next more hstep ih => exact ih (number_step_lt hstep h)
  | case13 phase parts c rest hstep hends ih =>
      refine List.forall_mem_cons.mpr ⟨proper_number_draft h, ?_⟩
      split
      · rename_i tokens state hbegin
        obtain ⟨htokens, hstate⟩ := proper_begin_token hbegin
        exact List.forall_mem_append.mpr ⟨htokens, ih state hstate⟩
      · exact List.forall_mem_singleton.mpr proper_malformed_token
  | case14 => exact List.forall_mem_singleton.mpr proper_malformed_token
  | case15 reversed lone escape c rest draft hstep ih =>
      exact List.forall_mem_cons.mpr ⟨proper_finished_string hstep, ih trivial⟩
  | case16 => exact proper_broken_string
  | case17 reversed lone escape c rest state hstep ih =>
      obtain ⟨_, _, _, rfl⟩ := string_of_continue hstep
      exact ih trivial

/-! ## Tokens -/

variable {stack : List Frame} {value : Draft} {fault : Fault}

/-- An open container that holds proper drafts. -/
def Frame.Proper : Frame → Prop
  | .array items => ∀ item ∈ items, item.Proper
  | .object members _ => ∀ member ∈ members, member.2.Proper

theorem Frame.Proper.add {frame : Frame} (h : frame.Proper) (hvalue : value.Proper) :
    (frame.add value).Proper := by
  cases frame with
  | array items => exact List.forall_mem_cons.mpr ⟨hvalue, h⟩
  | object members key => exact List.forall_mem_cons.mpr ⟨hvalue, h⟩

theorem Frame.Proper.finish {frame : Frame} (h : frame.Proper) (ending : Option Fault) :
    (frame.finish ending).Proper := by
  cases frame with
  | array items => exact .array fun item hitem => h item (List.mem_reverse.mp hitem)
  | object members key => exact .object fun member hmember => h member (List.mem_reverse.mp hmember)

/-- Adding a proper draft to the innermost container keeps the open containers proper. -/
theorem proper_modify_head (h : ∀ frame ∈ stack, frame.Proper) (hvalue : value.Proper) :
    ∀ frame ∈ stack.modifyHead (·.add value), frame.Proper := by
  cases stack with
  | nil => exact nofun
  | cons frame stack =>
      obtain ⟨hframe, hstack⟩ := List.forall_mem_cons.mp h
      exact List.forall_mem_cons.mpr ⟨hframe.add hvalue, hstack⟩

theorem proper_collapse (h : ∀ frame ∈ stack, frame.Proper) (hvalue : value.Proper) :
    (collapse fault stack value).Proper := by
  induction stack generalizing value with
  | nil => exact hvalue
  | cons frame stack ih =>
      obtain ⟨hframe, hstack⟩ := List.forall_mem_cons.mp h
      exact ih hstack ((hframe.add hvalue).finish _)

theorem proper_cut_off (h : ∀ frame ∈ stack, frame.Proper) : (cutOff stack fault).root.Proper :=
  proper_collapse h (.broken fault)

theorem proper_cut_end (h : ∀ frame ∈ stack, frame.Proper) : (cutEnd stack fault).root.Proper := by
  cases stack with
  | nil => exact .broken fault
  | cons frame stack =>
      obtain ⟨hframe, hstack⟩ := List.forall_mem_cons.mp h
      exact proper_collapse hstack (hframe.finish _)

/-- A container that opens is proper. -/
theorem proper_open {frame : Frame} (h : frame = .array [] ∨ frame = .object [] .null) :
    frame.Proper := by
  rcases h with rfl | rfl <;> exact nofun

/-- The document of proper tokens is proper. -/
theorem proper_parse_from {expected : Expectation} {tokens : List Token}
    (hstack : ∀ frame ∈ stack, frame.Proper) (hvalue : value.Proper)
    (htokens : ∀ token ∈ tokens, token.Proper) :
    (parseFrom stack expected value tokens).root.Proper := by
  -- What is left to do after a container that ends, and after a value that is a token.
  have hclose : ∀ {frame : Frame} {outer : List Frame}, (∀ f ∈ frame :: outer, f.Proper) →
      (frame.finish none).Proper ∧
        ∀ f ∈ outer.modifyHead (·.add (frame.finish none)), f.Proper := by
    intro frame outer h
    obtain ⟨hframe, houter⟩ := List.forall_mem_cons.mp h
    exact ⟨hframe.finish none, proper_modify_head houter (hframe.finish none)⟩
  fun_induction parseFrom stack expected value tokens with
  | case1 | case2 | case12 | case22 | case28 => exact proper_cut_off hstack
  | case4 | case10 | case14 | case17 => exact proper_cut_end hstack
  | case3 | case5 => exact hvalue
  | case6 _ _ _ _ _ ih | case8 _ _ _ _ _ _ ih | case11 _ _ _ ih =>
      exact ih hstack hvalue (List.forall_mem_cons.mp htokens).2
  | case7 _ _ _ _ _ _ ih | case9 _ _ _ _ _ _ _ ih | case16 _ _ _ _ _ _ ih
  | case23 _ _ _ _ _ ih =>
      exact ih (hclose hstack).2 (hclose hstack).1 (List.forall_mem_cons.mp htokens).2
  | case13 _ _ _ _ _ _ ih | case15 _ _ _ _ _ _ ih =>
      obtain ⟨hframe, houter⟩ := List.forall_mem_cons.mp hstack
      exact ih (List.forall_mem_cons.mpr ⟨hframe, houter⟩) hvalue
        (List.forall_mem_cons.mp htokens).2
  | case18 _ _ _ _ ih | case19 _ _ _ _ ih | case24 _ _ _ _ ih | case25 _ _ _ _ ih =>
      obtain ⟨hdone, hrest⟩ := List.forall_mem_cons.mp htokens
      exact ih (proper_modify_head hstack hdone) hdone hrest
  | case20 _ _ _ ih | case26 _ _ _ ih =>
      exact ih (List.forall_mem_cons.mpr ⟨proper_open (.inl rfl), hstack⟩) hvalue
        (List.forall_mem_cons.mp htokens).2
  | case21 _ _ _ ih | case27 _ _ _ ih =>
      exact ih (List.forall_mem_cons.mpr ⟨proper_open (.inr rfl), hstack⟩) hvalue
        (List.forall_mem_cons.mp htokens).2

/-- Every number that is read of a text is proper. -/
theorem proper_draft (text : String) : (Json.draft text).root.Proper :=
  proper_parse_from nofun .null (proper_tokens_from trivial)

end Json

/-! ## Decoders -/

namespace Decoder

variable {α β γ σ : Type} {P : α → Prop} {Q : β → Prop}

/-- Whatever is decoded of a proper draft has the property. -/
def Yields (decode : Decoder α) (P : α → Prop) : Prop :=
  ∀ room draft a, draft.Proper → decode room draft = .ok a → P a

/-- What is read of a text has the property that is decoded of proper drafts. -/
theorem Yields.read {decode : Decoder α} (h : decode.Yields P) {text : String} {a : α}
    (hread : Json.read decode text = .ok a) : P a := by
  obtain ⟨value, hvalue, hend⟩ := bind_eq_ok_iff.mp hread
  split at hend
  · cases hend
  · cases hend
    exact h _ _ _ (Json.proper_draft text) hvalue

theorem yields_true (decode : Decoder α) : decode.Yields fun _ => True :=
  fun _ _ _ _ _ => trivial

theorem yields_real : real.Yields fun x => x.isFinite := by
  intro room draft x hdraft h
  cases hdraft with
  | number hn =>
      cases h
      exact hn.is_finite
  | _ => cases h

theorem yields_integer {low high : Int} :
    (integer low high).Yields fun i => low ≤ i ∧ i ≤ high := by
  intro room draft i _ h
  unfold integer at h
  split at h
  · split at h
    · cases h
      assumption
    · cases h
  · cases h

theorem yields_natural {bound : Nat} : (natural bound).Yields (· < bound) := by
  intro room draft n hdraft h
  obtain ⟨i, hi, rfl⟩ := map_eq_ok_iff.mp h
  have hbounds := yields_integer room draft i hdraft hi
  omega

theorem yields_option {decode : Decoder α} (h : decode.Yields P) :
    (option decode).Yields fun value => ∀ a ∈ value, P a := by
  intro room draft value hdraft hvalue
  unfold option at hvalue
  split at hvalue
  · cases hvalue
    exact nofun
  · obtain ⟨a, ha, rfl⟩ := map_eq_ok_iff.mp hvalue
    intro other hother
    cases hother
    exact h room draft a hdraft ha

/-- A map has what every entry that is put into it keeps. -/
theorem yields_map {key : String → Option α} {decode : Decoder β} {empty : γ}
    {put : γ → α → β → γ} {R : γ → Prop} (hdecode : decode.Yields Q) (hempty : R empty)
    (hput : ∀ map a b, R map → Q b → R (put map a b)) : (map key decode empty put).Yields R := by
  have hentries : ∀ room members map last, R map → (∀ member ∈ members, member.2.Proper) →
      entries key (decode room) put map members = .ok last → R last := by
    intro room members
    induction members with
    | nil =>
        intro map last hmap _ h
        cases h
        exact hmap
    | cons member members ih =>
        intro map last hmap hproper h
        obtain ⟨hmember, hmembers⟩ := List.forall_mem_cons.mp hproper
        obtain ⟨name, -, h⟩ := bind_eq_ok_iff.mp h
        split at h
        · cases h
        · obtain ⟨b, hb, h⟩ := bind_eq_ok_iff.mp h
          exact ih _ last (hput _ _ b hmap (hdecode room _ b hmember hb)) hmembers h
  intro room draft last hdraft h
  cases hdraft with
  | object hproper =>
      cases room with
      | zero => cases h
      | succ room =>
          obtain ⟨last', hlast, h⟩ := bind_eq_ok_iff.mp h
          obtain ⟨-, -, h⟩ := bind_eq_ok_iff.mp h
          cases h
          exact hentries room _ _ _ hempty hproper hlast
  | _ => cases h

/-- Decoding the field keeps the property of a record. -/
def Keeps (field : Field σ) (R : σ → Prop) : Prop :=
  ∀ room draft record next, draft.Proper → R record →
    field.decode room draft record = .ok next → R next

theorem keeps_optional {name : String} {decode : Decoder α} {set : σ → α → σ} {R : σ → Prop}
    (h : decode.Yields P) (hset : ∀ record a, R record → P a → R (set record a)) :
    Keeps (.optional name decode set) R := by
  intro room draft record next hdraft hrecord hnext
  obtain ⟨a, ha, rfl⟩ := map_eq_ok_iff.mp hnext
  exact hset record a hrecord (h room draft a hdraft ha)

theorem keeps_mandatory {name : String} {decode : Decoder α} {set : σ → α → σ} {R : σ → Prop}
    (h : decode.Yields P) (hset : ∀ record a, R record → P a → R (set record a)) :
    Keeps (.mandatory name decode set) R :=
  @keeps_optional _ _ _ name _ _ _ h hset

section Records

variable {fields : List (Field σ)} {room : Nat} {record last : σ} {R : σ → Prop}

/-- Members keep what every field keeps. -/
theorem keeps_members (hfields : ∀ field ∈ fields, Keeps field R)
    {unknown : Draft → Except JsonError Unit} {members : List (Draft × Draft)}
    {seen known : List String} (hrecord : R record)
    (hproper : ∀ member ∈ members, member.2.Proper)
    (h : recordMembers unknown fields room seen record members = .ok (known, last)) : R last := by
  induction members generalizing seen record with
  | nil =>
      cases h
      exact hrecord
  | cons member members ih =>
      obtain ⟨hmember, hmembers⟩ := List.forall_mem_cons.mp hproper
      obtain ⟨name, -, h⟩ := bind_eq_ok_iff.mp h
      split at h
      · rename_i field hfind
        split at h
        · cases h
        · obtain ⟨next, hnext, h⟩ := bind_eq_ok_iff.mp h
          have hfield := hfields field (List.mem_of_find?_eq_some hfind)
          exact ih (hfield room _ record next hmember hrecord hnext) hmembers h
      · obtain ⟨-, -, h⟩ := bind_eq_ok_iff.mp h
        exact ih hrecord hmembers h

/-- Items keep what every field keeps. -/
theorem keeps_items (hfields : ∀ field ∈ fields, Keeps field R) {ending : Option Fault}
    {drafts : List Draft} (hrecord : R record) (hproper : ∀ draft ∈ drafts, draft.Proper)
    (h : recordItems room ending fields record drafts = .ok last) : R last := by
  induction fields generalizing record drafts with
  | nil =>
      cases drafts with
      | nil =>
          obtain ⟨-, -, rfl⟩ := map_eq_ok_iff.mp h
          exact hrecord
      | cons draft drafts => cases h
  | cons field fields ih =>
      obtain ⟨hfield, hfields⟩ := List.forall_mem_cons.mp hfields
      cases drafts with
      | nil =>
          obtain ⟨-, -, h⟩ := bind_eq_ok_iff.mp h
          split at h
          · cases h
          · cases h
            exact hrecord
      | cons draft drafts =>
          obtain ⟨hdraft, hdrafts⟩ := List.forall_mem_cons.mp hproper
          obtain ⟨next, hnext, h⟩ := bind_eq_ok_iff.mp h
          exact ih hfields (hfield room draft record next hdraft hrecord hnext) hdrafts h

/-- A record has what every field keeps. -/
theorem yields_record (hrecord : R record) (hfields : ∀ field ∈ fields, Keeps field R) :
    (Decoder.record fields record).Yields R := by
  intro room draft last hdraft h
  cases hdraft with
  | object hproper =>
      cases room with
      | zero => cases h
      | succ room =>
          obtain ⟨⟨known, next⟩, hmembers, h⟩ := bind_eq_ok_iff.mp h
          obtain ⟨-, -, h⟩ := bind_eq_ok_iff.mp h
          split at h
          · cases h
          · cases h
            exact keeps_members hfields hrecord hproper hmembers
  | array hproper =>
      cases room with
      | zero => cases h
      | succ room => exact keeps_items hfields hrecord hproper h
  | _ => cases h

end Records

/-- A value of one of several shapes has what is decoded in each of them. -/
theorem yields_untagged {shapes : List (Decoder α)} (h : ∀ shape ∈ shapes, shape.Yields P) :
    (untagged shapes).Yields P := by
  intro room draft a hdraft ha
  obtain ⟨-, -, ha⟩ := bind_eq_ok_iff.mp ha
  split at ha
  next found hfound =>
    cases ha
    obtain ⟨shape, hshape, hread⟩ := List.exists_of_findSome?_eq_some hfound
    cases hvalue : shape room draft with
    | error => simp [hvalue, Except.toOption] at hread
    | ok value =>
        obtain rfl : value = a := by simpa [hvalue, Except.toOption] using hread
        exact h shape hshape room draft value hdraft hvalue
  next => cases ha

end Decoder

end StatsBoard
