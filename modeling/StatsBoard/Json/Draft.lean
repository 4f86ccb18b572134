import StatsBoard.Json.Value

/-!
# Drafts of JSON documents

Reading a document is done in two steps. The first finds the structure of the text, as far as the
text goes, without knowing what is expected of it: a `Draft`. Where the text breaks, the draft
holds a fault in that place. The second step decodes a draft into a value of the expected type and
reports the first problem in text order, be it a fault of the text or a value of the wrong type.
Some problems matter only to a value that is read: a value that is skipped may hold a number beyond
every binary64 number or half of a surrogate pair. A fault therefore has one category for each way
in which its place may be used.
-/

namespace StatsBoard

/-- What kind of problem a JSON text has. -/
inductive JsonError where
  /-- The text ended inside the document. -/
  | endOfText
  /-- The text is no JSON. -/
  | malformed
  /-- The value found is not one that is expected. -/
  | mismatch
deriving DecidableEq, Repr

namespace JsonError

/-- The word by which answers name the kind of problem. -/
def category : JsonError → String
  | endOfText => "eof"
  | malformed => "syntax"
  | mismatch => "data"

end JsonError

/-- A place where the text breaks: the problem it is for a value that is read, for a value that is
skipped, and for the name of a variant. -/
structure Fault where
  reading : JsonError
  skipping : JsonError
  naming : JsonError
deriving DecidableEq, Repr

namespace Fault

/-- A fault that is the same problem however its place is used. -/
def plain (error : JsonError) : Fault :=
  ⟨error, error, error⟩

end Fault

/-- The structure of a JSON text as far as it goes. -/
inductive Draft where
  | null
  | bool (value : Bool)
  | number (value : Number)
  | string (value : String)
  /-- A well-formed number or string without a value: harmless when skipped, malformed when
  read. -/
  | unreadable
  /-- Items, and how the array ends: properly, or with a fault where a comma or the closing bracket
  should stand. -/
  | array (items : List Draft) (ending : Option Fault)
  /-- Members, their keys being drafts of strings, and how the object ends: properly, or with a
  fault where a comma, a key or the closing brace should stand. -/
  | object (members : List (Draft × Draft)) (ending : Option Fault)
  /-- A value cut off by a fault. -/
  | broken (fault : Fault)

/-- The draft of a whole text, and whether more text follows the document. -/
structure Document where
  root : Draft
  trailing : Bool

namespace Draft

/-- The problem of a draft where a value of another type is expected. -/
def refusal : Draft → JsonError
  | .unreadable => .malformed
  | .broken fault => fault.reading
  | _ => .mismatch

mutual

/-- The first problem of a value that is skipped. -/
def skipError? : Draft → Option JsonError
  | .broken fault => some fault.skipping
  | .array items ending => skipItems? items (ending.map (·.skipping))
  | .object members ending => skipMembers? members (ending.map (·.skipping))
  | _ => none

/-- The first problem of skipped items, or else that of the end of their array. -/
def skipItems? : List Draft → Option JsonError → Option JsonError
  | [], ending => ending
  | item :: rest, ending => (skipError? item).or (skipItems? rest ending)

/-- The first problem of skipped members, or else that of the end of their object. -/
def skipMembers? : List (Draft × Draft) → Option JsonError → Option JsonError
  | [], ending => ending
  | (key, value) :: rest, ending =>
    ((skipError? key).or (skipError? value)).or (skipMembers? rest ending)

end

end Draft

end StatsBoard
