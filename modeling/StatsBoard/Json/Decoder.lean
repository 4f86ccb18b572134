import StatsBoard.Json.Parser

/-!
# Decoding drafts

A decoder turns a draft into a value of one type, or names the first problem in text order. It is
given how many containers may still be entered: a document may nest 127 of them, and values that
are skipped do not count. Records may be written as objects or as arrays of their fields in order.
-/

namespace StatsBoard

/-- A reading of drafts as values of one type, given the number of containers that may still be
entered. -/
abbrev Decoder (α : Type) := Nat → Draft → Except JsonError α

namespace Decoder

variable {α β γ : Type}

/-- The number of nested containers that a document may have. -/
def maxDepth : Nat := 127

/-- Enter a container, if one more is allowed. -/
def enter (room : Nat) (inside : Nat → Except JsonError α) : Except JsonError α :=
  match room with
  | 0 => .error .malformed
  | room + 1 => inside room

/-- How a container ends: properly, or with the problem of its fault. -/
def close (ending : Option Fault) : Except JsonError Unit :=
  match ending with
  | none => .ok ()
  | some fault => .error fault.reading

/-- A draft whose value is ignored. -/
def skip (draft : Draft) : Except JsonError Unit :=
  match draft.skipError? with
  | none => .ok ()
  | some error => .error error

/-- A string. -/
def string : Decoder String := fun _ draft =>
  match draft with
  | .string s => .ok s
  | draft => .error draft.refusal

/-- A boolean. -/
def bool : Decoder Bool := fun _ draft =>
  match draft with
  | .bool b => .ok b
  | draft => .error draft.refusal

/-- An integer between two bounds; a number with a fraction or an exponent is none. -/
def integer (low high : Int) : Decoder Int := fun _ draft =>
  match draft with
  | .number (.integer value) => if low ≤ value ∧ value ≤ high then .ok value else .error .mismatch
  | draft => .error draft.refusal

/-- A natural number below a bound. -/
def natural (bound : Nat) : Decoder Nat := fun room draft =>
  (integer 0 (bound - 1) room draft).map Int.toNat

/-- A binary64 number; integers are rounded to one. -/
def real : Decoder Binary64 := fun _ draft =>
  match draft with
  | .number n => .ok n.toBinary64
  | draft => .error draft.refusal

/-- A value that may be `null`. -/
def option (decode : Decoder α) : Decoder (Option α) := fun room draft =>
  match draft with
  | .null => .ok none
  | draft => (decode room draft).map some

/-- The items of an array, decoded in order. -/
def items (decode : Draft → Except JsonError α) : List Draft → Except JsonError (List α)
  | [] => .ok []
  | item :: rest => do
    let value ← decode item
    let values ← items decode rest
    return value :: values

/-- A list of values. -/
def list (decode : Decoder α) : Decoder (List α) := fun room draft =>
  match draft with
  | .array drafts ending => enter room fun room => do
    let values ← items (decode room) drafts
    close ending
    return values
  | draft => .error draft.refusal

/-- One of several named alternatives, written as its name or as an object that gives the name the
value `null`. A value of another type stands where no text of that type may stand. -/
def variant (choose : String → Option α) : Decoder α := fun room draft =>
  let named (draft : Draft) : Except JsonError α := do
    let name ← string room draft
    match choose name with
    | some value => .ok value
    | none => .error .mismatch
  match draft with
  | .string _ => named draft
  | .unreadable => .error .malformed
  | .broken fault => .error fault.reading
  | .object [] ending => .error ((ending.map (·.naming)).getD .malformed)
  | .object ((key, value) :: rest) ending => enter room fun _ => do
    let chosen ← named key
    match value with
    | .null => .ok ()
    | value => .error value.refusal
    match rest, ending with
    | [], none => .ok chosen
    | [], some fault => .error fault.reading
    | _ :: _, _ => .error .malformed
  | _ => .error .malformed

/-- The members of a map, decoded in order and put into it one by one. -/
def entries (key : String → Option α) (decode : Draft → Except JsonError β)
    (put : γ → α → β → γ) : γ → List (Draft × Draft) → Except JsonError γ
  | map, [] => .ok map
  | map, (name, draft) :: rest => do
    let name ← string 0 name
    match key name with
    | none => .error .mismatch
    | some found =>
      let value ← decode draft
      entries key decode put (put map found value) rest

/-- A map whose keys are read by `key`; of several values for one key the last is put last. -/
def map (key : String → Option α) (decode : Decoder β) (empty : γ) (put : γ → α → β → γ) :
    Decoder γ := fun room draft =>
  match draft with
  | .object members ending => enter room fun room => do
    let map ← entries key (decode room) put empty members
    close ending
    return map
  | draft => .error draft.refusal

end Decoder

/-- A field of a record: its name, how its value is decoded into the record, and whether it may be
missing. -/
structure Field (σ : Type) where
  name : String
  decode : Nat → Draft → σ → Except JsonError σ
  required : Bool

namespace Field

variable {σ α : Type}

/-- A field that keeps the value it has when it is missing. -/
def optional (name : String) (decode : Decoder α) (set : σ → α → σ) : Field σ :=
  ⟨name, fun room draft record => (decode room draft).map (set record), false⟩

/-- A field that must be there. -/
def mandatory (name : String) (decode : Decoder α) (set : σ → α → σ) : Field σ :=
  ⟨name, fun room draft record => (decode room draft).map (set record), true⟩

end Field

namespace Decoder

variable {σ : Type}

/-- The members of a record in text order. A known name may come once, and what becomes of another
member is given. -/
def recordMembers (unknown : Draft → Except JsonError Unit) (fields : List (Field σ)) (room : Nat) :
    List String → σ → List (Draft × Draft) → Except JsonError (List String × σ)
  | seen, record, [] => .ok (seen, record)
  | seen, record, (key, draft) :: rest => do
    let name ← string 0 key
    match fields.find? (·.name == name) with
    | some field =>
      if seen.contains name then .error .mismatch
      else
        let record ← field.decode room draft record
        recordMembers unknown fields room (name :: seen) record rest
    | none =>
      unknown draft
      recordMembers unknown fields room seen record rest

/-- The fields of a record written as an array. An array that ends early leaves the rest of the
fields missing, and one that goes on is malformed. -/
def recordItems (room : Nat) (ending : Option Fault) :
    List (Field σ) → σ → List Draft → Except JsonError σ
  | [], record, [] => (close ending).map fun _ => record
  | [], _, _ :: _ => .error .malformed
  | field :: fields, record, [] => do
    close ending
    if (field :: fields).any (·.required) then .error .mismatch else .ok record
  | field :: fields, record, draft :: drafts => do
    let record ← field.decode room draft record
    recordItems room ending fields record drafts

/-- A record with the given fields, starting from the values it has when they are missing. -/
def recordWith (unknown : Draft → Except JsonError Unit) (fields : List (Field σ)) (start : σ) :
    Decoder σ := fun room draft =>
  match draft with
  | .object members ending => enter room fun room => do
    let (seen, record) ← recordMembers unknown fields room [] start members
    close ending
    if fields.any fun field => field.required && !seen.contains field.name then .error .mismatch
    else .ok record
  | .array drafts ending => enter room fun room => recordItems room ending fields start drafts
  | draft => .error draft.refusal

/-- A record in which other members are skipped. -/
def record (fields : List (Field σ)) (start : σ) : Decoder σ :=
  recordWith skip fields start

/-- A record that has no other members. -/
def closedRecord (fields : List (Field σ)) (start : σ) : Decoder σ :=
  recordWith (fun _ => .error .mismatch) fields start

end Decoder

namespace Json

mutual

/-- The JSON value of a draft. -/
def ofDraft (room : Nat) : Draft → Except JsonError Json
  | .null => .ok .null
  | .bool b => .ok (.bool b)
  | .number n => .ok (.number n)
  | .string s => .ok (.string s)
  | .unreadable => .error .malformed
  | .broken fault => .error fault.reading
  | .array items ending => do
    if room = 0 then .error .malformed
    else
      let items ← ofDraftItems (room - 1) items
      Decoder.close ending
      return .array items
  | .object members ending => do
    if room = 0 then .error .malformed
    else
      let members ← ofDraftMembers (room - 1) [] members
      Decoder.close ending
      return .object members

/-- The JSON values of drafts in order. -/
def ofDraftItems (room : Nat) : List Draft → Except JsonError (List Json)
  | [] => .ok []
  | item :: rest => do
    let value ← ofDraft room item
    let values ← ofDraftItems room rest
    return value :: values

/-- The members of drafts put one by one, in order. -/
def ofDraftMembers (room : Nat) (members : Members Json) :
    List (Draft × Draft) → Except JsonError (Members Json)
  | [] => .ok members
  | (key, draft) :: rest => do
    let name ← Decoder.string 0 key
    let value ← ofDraft room draft
    ofDraftMembers room (members.put name value) rest

end

/-- Any JSON value. -/
def decoder : Decoder Json := ofDraft

end Json

/-- A value of one of several shapes, which are tried in order once the whole value is read. -/
def Decoder.untagged {α : Type} (shapes : List (Decoder α)) : Decoder α := fun room draft => do
  let _ ← Json.decoder room draft
  match shapes.findSome? fun shape => (shape room draft).toOption with
  | some value => return value
  | none => .error .mismatch

namespace Json

/-- Read a text with a decoder. Nothing but blanks may follow the document. -/
def read {α : Type} (decode : Decoder α) (text : String) : Except JsonError α := do
  let document := draft text
  let value ← decode Decoder.maxDepth document.root
  if document.trailing then .error .malformed else .ok value

/-- Read a text as a JSON value. -/
def parse (text : String) : Except JsonError Json :=
  read decoder text

end Json

end StatsBoard
