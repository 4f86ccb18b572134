import StatsBoard.Proofs.Json.Numbers

/-!
# Printed documents

A value that is printed, in the compact form or indented, is read as the draft of that value
(`draft_compact`, `draft_pretty`), provided that its numbers are read back. Reading is followed in
its two steps: both texts have the tokens of the value, and from these tokens comes its draft.
-/

namespace StatsBoard.Json

open Text

/-! ## What a value is read as -/

mutual

/-- The draft as which a value is read. -/
def toDraft : Json → Draft
  | .null => .null
  | .bool b => .bool b
  | .number n => .number n
  | .string s => .string s
  | .array items => .array (itemDrafts items) none
  | .object members => .object (memberDrafts members) none

/-- The drafts as which items are read. -/
def itemDrafts : List Json → List Draft
  | [] => []
  | item :: rest => item.toDraft :: itemDrafts rest

/-- The drafts as which members are read. -/
def memberDrafts : List (String × Json) → List (Draft × Draft)
  | [] => []
  | (key, value) :: rest => (.string key, value.toDraft) :: memberDrafts rest

end

mutual

/-- The numbers inside a value. -/
def numbers : Json → List Number
  | .number n => [n]
  | .array items => itemNumbers items
  | .object members => memberNumbers members
  | .null | .bool _ | .string _ => []

/-- The numbers inside items. -/
def itemNumbers : List Json → List Number
  | [] => []
  | item :: rest => item.numbers ++ itemNumbers rest

/-- The numbers inside the values of members. -/
def memberNumbers : List (String × Json) → List Number
  | [] => []
  | (_, value) :: rest => value.numbers ++ memberNumbers rest

end

mutual

/-- The tokens of a value. -/
def valueTokens : Json → List Token
  | .null => [.bare .null]
  | .bool b => [.bare (.bool b)]
  | .number n => [.bare (.number n)]
  | .string s => [.quoted (.string s)]
  | .array items => .openArray :: (itemTokens items ++ [.closeArray])
  | .object members => .openObject :: (memberTokens members ++ [.closeObject])

/-- The tokens of items with commas between them. -/
def itemTokens : List Json → List Token
  | [] => []
  | [item] => valueTokens item
  | item :: rest => valueTokens item ++ .comma :: itemTokens rest

/-- The tokens of members with commas between them. -/
def memberTokens : List (String × Json) → List Token
  | [] => []
  | [(key, value)] => .quoted (.string key) :: .colon :: valueTokens value
  | (key, value) :: rest =>
    .quoted (.string key) :: .colon :: (valueTokens value ++ .comma :: memberTokens rest)

end

variable {value : Json} {items : List Json} {members : List (String × Json)}

theorem item_numbers_eq_flat_map : itemNumbers items = items.flatMap numbers := by
  induction items with
  | nil => rfl
  | cons item items ih => rw [itemNumbers, ih, List.flatMap_cons]

theorem member_numbers_eq_flat_map :
    memberNumbers members = members.flatMap fun member => member.2.numbers := by
  induction members with
  | nil => rfl
  | cons member members ih => rw [memberNumbers, ih, List.flatMap_cons]

theorem member_numbers_append (others : List (String × Json)) :
    memberNumbers (members ++ others) = memberNumbers members ++ memberNumbers others := by
  simp [member_numbers_eq_flat_map]

theorem numbers_of_strings (texts : List String) : (ofStrings texts).numbers = [] := by
  rw [ofStrings, numbers, item_numbers_eq_flat_map, List.flatMap_map]
  exact List.flatMap_eq_nil_iff.mpr fun _ _ => rfl

/-! ## From texts to tokens -/

variable {text more : List Char} {tokens others : List Token}

/-- Nothing is read as nothing. -/
theorem ReadAs.nil : ReadAs [] [] :=
  fun _ _ => rfl

/-- A mark that is a token of its own. -/
theorem ReadAs.mark {c : Char} {token : Token} (hc : beginToken c = some ([token], .between))
    (h : ReadAs more others) : ReadAs (c :: more) (token :: others) := by
  intro rest hrest
  rw [List.cons_append, tokens_between_cons, hc, List.cons_append, ← h rest hrest]
  rfl

/-- A blank is skipped. -/
theorem ReadAs.blank {c : Char} (hc : beginToken c = some ([], .between))
    (h : ReadAs more others) : ReadAs (c :: more) others := by
  intro rest hrest
  rw [List.cons_append, tokens_between_cons, hc, ← h rest hrest]
  rfl

/-- A text that ends where a value may end, and what follows there. -/
theorem ReadAs.append {c : Char} (h : ReadAs text tokens) (hmore : ReadAs (c :: more) others)
    (hc : Delimited [c]) : ReadAs (text ++ c :: more) (tokens ++ others) := by
  intro rest hrest
  have hdelimited : Delimited (c :: more ++ rest) := hc
  rw [List.append_assoc, h _ hdelimited, hmore rest hrest, List.append_assoc]

/-- An escaped character is read as that character. -/
theorem tokens_escape_char (c : Char) (reversed rest : List Char) :
    tokensFrom (.string reversed false .none) (escapeChar c ++ rest) =
      tokensFrom (.string (c :: reversed) false .none) rest := by
  by_cases hcontrol : c.toNat < 0x20
  · rw [← Char.ofNat_toNat c]
    interval_cases c.toNat <;> rfl
  · by_cases hspecial : c = '"' ∨ c = '\\'
    · rcases hspecial with rfl | rfl <;> rfl
    · obtain ⟨hquote, hslash⟩ := not_or.mp hspecial
      have hplain : escapeChar c = [c] := by
        unfold escapeChar
        split <;> simp_all
      have hstep :
          plainStep reversed false c = .continue (.string (c :: reversed) false .none) := by
        simp [plainStep, hquote, hslash, hcontrol]
      rw [hplain, List.singleton_append, tokens_string_cons, stringStep, hstep]

/-- The characters of a string up to its closing quote. -/
theorem tokens_escaped (chars reversed rest : List Char) :
    tokensFrom (.string reversed false .none) (chars.flatMap escapeChar ++ '"' :: rest) =
      .quoted (.string (String.ofList (reversed.reverse ++ chars))) ::
        tokensFrom .between rest := by
  induction chars generalizing reversed with
  | nil => rw [List.append_nil]; rfl
  | cons c chars ih =>
      rw [List.flatMap_cons, List.append_assoc, tokens_escape_char, ih, List.reverse_cons,
        List.append_assoc, List.singleton_append]

/-- A string literal is read as its string, whatever follows it. -/
theorem ReadAs.string (s : String) (h : ReadAs more others) :
    ReadAs (stringChars s ++ more) (.quoted (.string s) :: others) := by
  intro rest hrest
  have hchars : stringChars s ++ more ++ rest =
      '"' :: (s.toList.flatMap escapeChar ++ '"' :: (more ++ rest)) := by
    simp [stringChars]
  have hstring := tokens_escaped s.toList [] (more ++ rest)
  rw [List.reverse_nil, List.nil_append, String.ofList_toList, h rest hrest] at hstring
  rw [hchars]
  exact hstring

/-- A line break and its indentation are skipped. -/
theorem ReadAs.line_break (depth : Nat) (h : ReadAs more others) :
    ReadAs (lineBreak depth ++ more) others := by
  have hblanks : ∀ n, ReadAs (List.replicate n ' ' ++ more) others := by
    intro n
    induction n with
    | zero => exact h
    | succ n ih => exact ReadAs.blank (show beginToken ' ' = _ from rfl) ih
  exact ReadAs.blank (show beginToken '\n' = _ from rfl) (hblanks (2 * depth))

/-- A string literal that nothing follows. -/
theorem read_as_string_chars (s : String) : ReadAs (stringChars s) [.quoted (.string s)] := by
  have h := ReadAs.string s .nil
  rwa [List.append_nil] at h

mutual

/-- The compact text of a value has the tokens of the value. -/
theorem read_as_compact_chars (value : Json) (h : ∀ n ∈ value.numbers, ReadsBack n) :
    ReadAs (compactChars value) (valueTokens value) := by
  cases value with
  | null => exact fun _ _ => rfl
  | bool b => cases b <;> exact fun _ _ => rfl
  | number n => exact (h n List.mem_cons_self).read_as
  | string s => exact read_as_string_chars s
  | array items =>
      have hclose : ReadAs [']'] [.closeArray] := .mark rfl .nil
      exact .mark rfl ((read_as_compact_items items h).append hclose (by simp [Delimited]))
  | object members =>
      have hclose : ReadAs ['}'] [.closeObject] := .mark rfl .nil
      exact .mark rfl ((read_as_compact_members members h).append hclose (by simp [Delimited]))

/-- The compact texts of items have the tokens of the items. -/
theorem read_as_compact_items (items : List Json) (h : ∀ n ∈ itemNumbers items, ReadsBack n) :
    ReadAs (compactItems items) (itemTokens items) := by
  match items with
  | [] => exact .nil
  | [item] =>
      have hitem := (List.forall_mem_append.mp h).1
      exact read_as_compact_chars item hitem
  | item :: next :: rest =>
      obtain ⟨hitem, hrest⟩ := List.forall_mem_append.mp h
      have hcomma : ReadAs (',' :: compactItems (next :: rest))
          (.comma :: itemTokens (next :: rest)) :=
        .mark rfl (read_as_compact_items (next :: rest) hrest)
      exact (read_as_compact_chars item hitem).append hcomma (by simp [Delimited])

/-- The compact texts of members have the tokens of the members. -/
theorem read_as_compact_members (members : List (String × Json))
    (h : ∀ n ∈ memberNumbers members, ReadsBack n) :
    ReadAs (compactMembers members) (memberTokens members) := by
  match members with
  | [] => exact .nil
  | [(key, value)] =>
      have hvalue := (List.forall_mem_append.mp h).1
      have hcolon : ReadAs (':' :: compactChars value) (.colon :: valueTokens value) :=
        .mark rfl (read_as_compact_chars value hvalue)
      exact .string key hcolon
  | (key, value) :: next :: rest =>
      obtain ⟨hvalue, hrest⟩ := List.forall_mem_append.mp h
      have hcomma : ReadAs (',' :: compactMembers (next :: rest))
          (.comma :: memberTokens (next :: rest)) :=
        .mark rfl (read_as_compact_members (next :: rest) hrest)
      have hmembers := (read_as_compact_chars value hvalue).append hcomma (by simp [Delimited])
      exact .string key (.mark rfl hmembers)

end

mutual

/-- The indented text of a value has the tokens of the value. -/
theorem read_as_pretty_chars (depth : Nat) (value : Json) (h : ∀ n ∈ value.numbers, ReadsBack n) :
    ReadAs (prettyChars depth value) (valueTokens value) := by
  match value with
  | .null => exact fun _ _ => rfl
  | .bool b => cases b <;> exact fun _ _ => rfl
  | .number n => exact (h n List.mem_cons_self).read_as
  | .string s => exact read_as_string_chars s
  | .array [] => exact fun _ _ => rfl
  | .object [] => exact fun _ _ => rfl
  | .array (item :: rest) =>
      have hclose : ReadAs ('\n' :: (List.replicate (2 * depth) ' ' ++ [']'])) [.closeArray] :=
        .line_break depth (.mark rfl .nil)
      have hitems := read_as_pretty_items (depth + 1) (item :: rest) h
      rw [prettyChars, List.append_assoc]
      exact .mark rfl (hitems.append hclose (by simp [Delimited]))
  | .object (member :: rest) =>
      have hclose : ReadAs ('\n' :: (List.replicate (2 * depth) ' ' ++ ['}'])) [.closeObject] :=
        .line_break depth (.mark rfl .nil)
      have hmembers := read_as_pretty_members (depth + 1) (member :: rest) h
      rw [prettyChars, List.append_assoc]
      exact .mark rfl (hmembers.append hclose (by simp [Delimited]))

/-- The indented texts of items have the tokens of the items. -/
theorem read_as_pretty_items (depth : Nat) (items : List Json)
    (h : ∀ n ∈ itemNumbers items, ReadsBack n) :
    ReadAs (prettyItems depth items) (itemTokens items) := by
  match items with
  | [] => exact .nil
  | [item] =>
      have hitem := (List.forall_mem_append.mp h).1
      exact .line_break depth (read_as_pretty_chars depth item hitem)
  | item :: next :: rest =>
      obtain ⟨hitem, hrest⟩ := List.forall_mem_append.mp h
      have hcomma : ReadAs (',' :: prettyItems depth (next :: rest))
          (.comma :: itemTokens (next :: rest)) :=
        .mark rfl (read_as_pretty_items depth (next :: rest) hrest)
      have hitems := (read_as_pretty_chars depth item hitem).append hcomma (by simp [Delimited])
      rw [prettyItems, List.append_assoc]
      · exact .line_break depth hitems
      · simp

/-- The indented texts of members have the tokens of the members. -/
theorem read_as_pretty_members (depth : Nat) (members : List (String × Json))
    (h : ∀ n ∈ memberNumbers members, ReadsBack n) :
    ReadAs (prettyMembers depth members) (memberTokens members) := by
  match members with
  | [] => exact .nil
  | [(key, value)] =>
      have hvalue := (List.forall_mem_append.mp h).1
      have hcolon : ReadAs (':' :: ' ' :: prettyChars depth value) (.colon :: valueTokens value) :=
        .mark rfl (.blank rfl (read_as_pretty_chars depth value hvalue))
      rw [prettyMembers, List.append_assoc]
      exact .line_break depth (.string key hcolon)
  | (key, value) :: next :: rest =>
      obtain ⟨hvalue, hrest⟩ := List.forall_mem_append.mp h
      have hcomma : ReadAs (',' :: prettyMembers depth (next :: rest))
          (.comma :: memberTokens (next :: rest)) :=
        .mark rfl (read_as_pretty_members depth (next :: rest) hrest)
      have hmembers := (read_as_pretty_chars depth value hvalue).append hcomma (by simp [Delimited])
      rw [prettyMembers, List.append_assoc]
      · exact .line_break depth (.string key (.mark rfl (.blank rfl hmembers)))
      · simp

end

/-! ## From tokens to drafts -/

/-- No value begins with a closing bracket: the first item of an array is read like the others. -/
theorem parse_item_or_close (value : Json) (stack : List Frame) (last : Draft)
    (rest : List Token) :
    parseFrom stack .itemOrClose last (valueTokens value ++ rest) =
      parseFrom stack .item last (valueTokens value ++ rest) := by
  cases value <;> rcases stack with _ | ⟨_ | _, _⟩ <;> rfl

mutual

/-- Where a value is expected, its tokens put its draft into the innermost container. -/
theorem parse_value_tokens (value : Json) {expected : Expectation}
    (he : expected = .item ∨ expected = .itemOrClose) (stack : List Frame) (last : Draft)
    (rest : List Token) :
    parseFrom stack expected last (valueTokens value ++ rest) =
      parseFrom (stack.modifyHead (·.add value.toDraft)) .next value.toDraft rest := by
  have hitem : parseFrom stack expected last (valueTokens value ++ rest) =
      parseFrom stack .item last (valueTokens value ++ rest) := by
    rcases he with rfl | rfl
    · rfl
    · exact parse_item_or_close value stack last rest
  rw [hitem]
  match value with
  | .null | .bool _ | .number _ | .string _ | .array [] | .object [] => rfl
  | .array (item :: items) =>
      rw [valueTokens, List.cons_append, List.append_assoc]
      exact parse_item_tokens (item :: items) (by simp) (.inr rfl) [] stack last rest
  | .object (member :: members) =>
      rw [valueTokens, List.cons_append, List.append_assoc]
      exact parse_member_tokens (member :: members) (by simp) (.inr rfl) [] .null stack last rest

/-- The tokens of items finish the array in which they stand. -/
theorem parse_item_tokens (items : List Json) (hne : items ≠ []) {expected : Expectation}
    (he : expected = .item ∨ expected = .itemOrClose) (done : List Draft) (outer : List Frame)
    (last : Draft) (rest : List Token) :
    parseFrom (.array done :: outer) expected last (itemTokens items ++ .closeArray :: rest) =
      parseFrom (outer.modifyHead (·.add (.array (done.reverse ++ itemDrafts items) none)))
        .next (.array (done.reverse ++ itemDrafts items) none) rest := by
  match items with
  | [] => exact absurd rfl hne
  | [item] =>
      rw [itemTokens, parse_value_tokens item he]
      simp [parseFrom, Frame.add, Frame.finish, itemDrafts]
  | item :: next :: items =>
      have hnext := parse_item_tokens (next :: items) (by simp) (.inl rfl) (item.toDraft :: done)
        outer item.toDraft rest
      rw [List.reverse_cons, List.append_assoc, List.singleton_append] at hnext
      rw [itemTokens, List.append_assoc, parse_value_tokens item he]
      · exact hnext
      · simp

/-- The tokens of members finish the object in which they stand. -/
theorem parse_member_tokens (members : List (String × Json)) (hne : members ≠ [])
    {expected : Expectation} (he : expected = .key ∨ expected = .keyOrClose)
    (done : List (Draft × Draft)) (key : Draft) (outer : List Frame) (last : Draft)
    (rest : List Token) :
    parseFrom (.object done key :: outer) expected last
        (memberTokens members ++ .closeObject :: rest) =
      parseFrom (outer.modifyHead (·.add (.object (done.reverse ++ memberDrafts members) none)))
        .next (.object (done.reverse ++ memberDrafts members) none) rest := by
  match members with
  | [] => exact absurd rfl hne
  | [(name, value)] =>
      have hvalue := parse_value_tokens value (.inl rfl) (.object done (.string name) :: outer)
        last (.closeObject :: rest)
      have hdone : done.reverse ++ memberDrafts [(name, value)] =
          ((.string name, value.toDraft) :: done).reverse := by
        simp [memberDrafts]
      rw [hdone]
      rcases he with rfl | rfl <;> exact hvalue
  | (name, value) :: next :: members =>
      have hvalue := parse_value_tokens value (.inl rfl) (.object done (.string name) :: outer)
        last (.comma :: (memberTokens (next :: members) ++ .closeObject :: rest))
      have hnext := parse_member_tokens (next :: members) (by simp) (.inl rfl)
        ((.string name, value.toDraft) :: done) (.string name) outer value.toDraft rest
      rw [List.reverse_cons, List.append_assoc, List.singleton_append] at hnext
      rw [memberTokens, List.cons_append, List.cons_append, List.append_assoc]
      · rcases he with rfl | rfl <;> exact hvalue.trans hnext
      · simp

end

/-- The tokens of a value are those of its draft. -/
theorem parse_tokens (value : Json) :
    parseFrom [] .item .null (valueTokens value) = ⟨value.toDraft, false⟩ := by
  have h := parse_value_tokens value (.inl rfl) [] .null []
  rwa [List.append_nil] at h

/-- A text with the tokens of a value is read as the draft of that value. -/
theorem ReadAs.draft (h : ReadAs text (valueTokens value)) :
    Json.draft (String.ofList text) = ⟨value.toDraft, false⟩ := by
  have htokens : Json.tokens text = valueTokens value := by
    have hread := h [] (fun _ hc => nomatch hc)
    rwa [List.append_nil, tokens_between_nil, List.append_nil] at hread
  rw [Json.draft, String.toList_ofList, htokens, parse_tokens]

/-- The compact text of a value is read as the draft of that value. -/
theorem draft_compact (h : ∀ n ∈ value.numbers, ReadsBack n) :
    Json.draft value.compact = ⟨value.toDraft, false⟩ :=
  (read_as_compact_chars value h).draft

/-- The indented text of a value is read as the draft of that value. -/
theorem draft_pretty (h : ∀ n ∈ value.numbers, ReadsBack n) :
    Json.draft value.pretty = ⟨value.toDraft, false⟩ :=
  (read_as_pretty_chars 0 value h).draft

end StatsBoard.Json
