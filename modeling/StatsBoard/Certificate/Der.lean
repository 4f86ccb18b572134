/-!
# Elements of certificates

The data of a certificate are elements: a byte that says what an element is, its length, and its
content, which may be elements again. A length has one form only, so that the same data are always
the same bytes.
-/

namespace StatsBoard.Der

/-- The tag of a truth value. -/
def boolean : UInt8 := 0x01

/-- The tag of an integer. -/
def integer : UInt8 := 0x02

/-- The tag of a string of bits. -/
def bitString : UInt8 := 0x03

/-- The tag of a string of bytes. -/
def octetString : UInt8 := 0x04

/-- The tag of the name of a kind of data. -/
def objectIdentifier : UInt8 := 0x06

/-- The tag of a sequence of elements. -/
def sequence : UInt8 := 0x30

/-- The tag of an element that is set apart by a number. -/
def labelled (number : UInt8) : UInt8 := 0xA0 + number

/-- All lengths are below this one. -/
def lengthLimit : Nat := 0xFFFF

/-- A length, and the bytes after it. -/
def readLength? : List UInt8 → Option (Nat × List UInt8)
  | 0x81 :: a :: rest => if 0x80 ≤ a then some (a.toNat, rest) else none
  | 0x82 :: a :: b :: rest =>
    let length := 256 * a.toNat + b.toNat
    if 0xFF < length ∧ length < lengthLimit then some (length, rest) else none
  | a :: rest => if a < 0x80 then some (a.toNat, rest) else none
  | [] => none

/-- The content of the element that comes first, if it has the tag, and the bytes after it. -/
def read? (tag : UInt8) : List UInt8 → Option (List UInt8 × List UInt8)
  | first :: rest =>
    if first = tag then
      match readLength? rest with
      | some (length, rest) =>
        if length ≤ rest.length then some (rest.take length, rest.drop length) else none
      | none => none
    else none
  | [] => none

/-- The content of the only element. -/
def only? (tag : UInt8) (bytes : List UInt8) : Option (List UInt8) :=
  match read? tag bytes with
  | some (content, []) => some content
  | _ => none

/-- The bytes after elements with the tags. -/
def skip? : List UInt8 → List UInt8 → Option (List UInt8)
  | [], bytes => some bytes
  | tag :: tags, bytes => (read? tag bytes).bind fun (_, rest) => skip? tags rest

/-- Reading an element leaves fewer bytes. -/
theorem length_lt_of_read? {tag : UInt8} {bytes content rest : List UInt8}
    (h : read? tag bytes = some (content, rest)) : rest.length < bytes.length := by
  have hlength : ∀ {bytes : List UInt8} {n : Nat} {after : List UInt8},
      readLength? bytes = some (n, after) → after.length ≤ bytes.length := by
    intro bytes n after h
    unfold readLength? at h
    split at h <;> simp at h <;> grind
  unfold read? at h
  split at h
  · split at h
    · split at h
      · rename_i hread
        have := hlength hread
        split at h
        · simp only [Option.some.injEq, Prod.mk.injEq] at h
          obtain ⟨-, rfl⟩ := h
          simp only [List.length_drop, List.length_cons]
          omega
        · simp at h
      · simp at h
    · simp at h
  · simp at h

/-- The contents of elements that all have the tag. -/
def all? (tag : UInt8) (bytes : List UInt8) : Option (List (List UInt8)) :=
  if bytes = [] then some []
  else
    match _h : read? tag bytes with
    | some (content, rest) => (all? tag rest).map (content :: ·)
    | none => none
termination_by bytes.length
decreasing_by exact length_lt_of_read? ‹_›

end StatsBoard.Der
