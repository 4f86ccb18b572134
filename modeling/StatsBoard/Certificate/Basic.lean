import StatsBoard.Certificate.Der

/-!
# Certificates

Which bytes are a certificate that can be trusted as it is. Only its form counts here, not who
signed it. Certificates have a version; those of the first one say so by saying nothing.
-/

namespace StatsBoard

/-- The parts of a certificate: what is certified, the way in which it is signed, and the
signature. -/
structure SignedData where
  content : List UInt8
  algorithm : List UInt8
  signature : List UInt8
deriving DecidableEq, Repr

namespace Certificate

open Der

/-- The parts of a certificate. The signature is whole bytes. -/
def parts? (bytes : List UInt8) : Option SignedData := do
  let outer ← only? sequence bytes
  let (content, rest) ← read? sequence outer
  let (algorithm, rest) ← read? sequence rest
  let signature ← only? bitString rest
  if signature.head? = some 0 then some ⟨content, algorithm, signature.tail⟩ else none

/-- Extensions that are understood, by the last byte of their names: the use of the key, other
names, basic constraints, constraints of names, where revocations are found, and further uses of
the key. -/
def knownExtensions : List UInt8 := [15, 17, 19, 30, 31, 37]

/-- The extension about the use of the key, whose content is read later. -/
def keyUsage : UInt8 := 15

/-- The last byte of a name of the family to which the known extensions belong. -/
def extensionNumber? : List UInt8 → Option UInt8
  | [0x55, 0x1d, number] => some number
  | _ => none

/-- A truth value that is left out if it is false, and the bytes after it. -/
def readFlag? (bytes : List UInt8) : Option (Bool × List UInt8) :=
  if bytes.head? = some boolean then
    match read? boolean bytes with
    | some ([0xFF], rest) => some (true, rest)
    | some ([0x00], rest) => some (false, rest)
    | _ => none
  else some (false, bytes)

/-- Read one extension, given the known ones that came before it: each may come once, and one that
is not known must not matter. -/
def readExtension? (seen : List UInt8) (bytes : List UInt8) : Option (List UInt8) := do
  let (name, rest) ← read? objectIdentifier bytes
  let (critical, rest) ← readFlag? rest
  let value ← only? octetString rest
  match (extensionNumber? name).filter knownExtensions.contains with
  | none => if critical then none else some seen
  | some number =>
    if seen.contains number then none
    else if number = keyUsage ∨ (only? sequence value).isSome then some (number :: seen)
    else none

/-- The bytes are the extensions at the end of a certificate, or nothing. -/
def areExtensions (bytes : List UInt8) : Bool :=
  bytes == [] || (((only? (labelled 3) bytes).bind (only? sequence)).bind fun list =>
    (all? sequence list).bind (·.foldlM readExtension? [])).isSome

/-- What is certified has the form of the third version: the version, a number, the way of signing,
the issuer, the time of validity, the holder, the key of the holder, and extensions. -/
def isVersion3 (data : SignedData) : Bool :=
  (do
    let (version, rest) ← read? (labelled 0) data.content
    let rest ← skip? [integer] rest
    let (algorithm, rest) ← read? sequence rest
    let rest ← skip? [sequence, sequence, sequence, sequence] rest
    return version == [integer, 1, 2] && algorithm == data.algorithm && areExtensions rest)
    == some true

/-- What is certified has the form of the first version, without a version and extensions. -/
def isVersion1 (data : SignedData) : Bool :=
  skip? [integer, sequence, sequence, sequence, sequence, sequence] data.content == some []

/-- The bytes are a certificate that can be trusted. -/
def isTrustworthy (bytes : List UInt8) : Bool :=
  ((parts? bytes).map fun data => isVersion3 data || isVersion1 data) == some true

end Certificate

end StatsBoard
