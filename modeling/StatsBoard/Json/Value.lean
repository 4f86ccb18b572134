import StatsBoard.Binary64.Basic

/-!
# JSON values

A JSON value keeps the members of an object in the order of their first appearance, and tells
integers that fit 64 bits (signed or unsigned) from all other numbers, which are binary64.
-/

namespace StatsBoard

/-- A JSON number. -/
inductive Number where
  /-- An integer of the range `-2 ^ 63` to `2 ^ 64 - 1`. -/
  | integer (value : Int)
  /-- A finite binary64 number. -/
  | real (value : Binary64)
deriving DecidableEq, Repr

/-- A JSON value. -/
inductive Json where
  | null
  | bool (value : Bool)
  | number (value : Number)
  | string (value : String)
  | array (items : List Json)
  | object (members : List (String × Json))

namespace Number

/-- The integer fits 64 bits, signed or unsigned. -/
def inRange (value : Int) : Bool :=
  Int64.minValue.toInt ≤ value && value < UInt64.size

/-- The binary64 number nearest to a JSON number. -/
def toBinary64 : Number → Binary64
  | integer value => .ofInt value
  | real value => value

end Number

/-- The members of an object in the order of their first appearance. -/
abbrev Members (α : Type) := List (String × α)

namespace Members

variable {α : Type}

/-- The value of the member with the given key. -/
def get? (members : Members α) (key : String) : Option α :=
  (members.find? (·.1 == key)).map (·.2)

/-- Give a member a value: an old key keeps its position, a new one goes to the end. -/
def put (members : Members α) (key : String) (value : α) : Members α :=
  if members.any (·.1 == key) then
    members.map fun member => if member.1 == key then (key, value) else member
  else members ++ [(key, value)]

end Members

namespace Json

mutual

/-- Equality of JSON values is decided by comparing their parts. -/
def decEq : (a b : Json) → Decidable (a = b)
  | .null, .null => isTrue rfl
  | .bool a, .bool b => decidable_of_iff (a = b) (by simp)
  | .number a, .number b => decidable_of_iff (a = b) (by simp)
  | .string a, .string b => decidable_of_iff (a = b) (by simp)
  | .array a, .array b =>
    match decEqItems a b with
    | isTrue h => isTrue (by rw [h])
    | isFalse h => isFalse (by simpa using h)
  | .object a, .object b =>
    match decEqMembers a b with
    | isTrue h => isTrue (by rw [h])
    | isFalse h => isFalse (by simpa using h)
  | .null, .bool _ | .null, .number _ | .null, .string _ | .null, .array _ | .null, .object _
  | .bool _, .null | .bool _, .number _ | .bool _, .string _ | .bool _, .array _
  | .bool _, .object _ | .number _, .null | .number _, .bool _ | .number _, .string _
  | .number _, .array _ | .number _, .object _ | .string _, .null | .string _, .bool _
  | .string _, .number _ | .string _, .array _ | .string _, .object _ | .array _, .null
  | .array _, .bool _ | .array _, .number _ | .array _, .string _ | .array _, .object _
  | .object _, .null | .object _, .bool _ | .object _, .number _ | .object _, .string _
  | .object _, .array _ => isFalse (by simp)

/-- Equality of lists of JSON values is decided item by item. -/
def decEqItems : (a b : List Json) → Decidable (a = b)
  | [], [] => isTrue rfl
  | [], _ :: _ | _ :: _, [] => isFalse (by simp)
  | x :: xs, y :: ys =>
    match decEq x y, decEqItems xs ys with
    | isTrue h, isTrue hs => isTrue (by rw [h, hs])
    | isFalse h, _ => isFalse (by simp [h])
    | _, isFalse hs => isFalse (by simp [hs])

/-- Equality of members is decided one by one, keys first. -/
def decEqMembers : (a b : List (String × Json)) → Decidable (a = b)
  | [], [] => isTrue rfl
  | [], _ :: _ | _ :: _, [] => isFalse (by simp)
  | (k, x) :: xs, (l, y) :: ys =>
    match decEq x y, decEqMembers xs ys with
    | isTrue h, isTrue hs =>
      if hk : k = l then isTrue (by rw [h, hs, hk]) else isFalse (by simp [hk])
    | isFalse h, _ => isFalse (by simp [h])
    | _, isFalse hs => isFalse (by simp [hs])

end

instance : DecidableEq Json := decEq

/-- A natural number as JSON. -/
def ofNat (n : Nat) : Json :=
  .number (.integer n)

/-- A list of strings as JSON. -/
def ofStrings (items : List String) : Json :=
  .array (items.map .string)

end Json

end StatsBoard
