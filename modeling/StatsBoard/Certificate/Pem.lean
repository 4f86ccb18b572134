import StatsBoard.Text.Base64
import StatsBoard.Text.Split

/-!
# Files of certificates

A file of certificates is a text with sections. A section begins with a line that names what it
holds and ends with a line that repeats the name; between them stand bytes in base 64. Text around
the sections is passed over.
-/

namespace StatsBoard

/-- What is wrong with a file of certificates. -/
inductive PemFault where
  /-- A line begins a section but does not end as it should. -/
  | badBeginning (line : String)
  /-- The text ends within a section. -/
  | unfinished (label : String)
  /-- The bytes of a section are not written in base 64. -/
  | badBytes
deriving DecidableEq, Repr

namespace PemFault

/-- What is said of a fault. -/
def message : PemFault → String
  | badBeginning line => "illegal section start: " ++ line
  | unfinished label => "section end -----END " ++ label ++ "----- missing"
  | badBytes => "base64 decode error"

end PemFault

/-- A section that is being read. -/
structure PemSection where
  /-- What the section holds. -/
  label : String
  /-- The text of the section so far. -/
  body : List Char := []
deriving DecidableEq, Repr

namespace Pem

/-- How a section begins. -/
def beginning : String := "-----BEGIN "

/-- The hyphens after a label. -/
def trailer : String := "-----"

/-- The line begins with a text. -/
def startsWith (line : List Char) (text : String) : Bool :=
  text.toList.isPrefixOf line

/-- The label of a line that begins a section, given what follows the beginning. Five hyphens end
it, with blanks between or after them at most. -/
def label? (rest : List Char) : Option String :=
  let tail := (rest.reverse.takeWhile fun c => c == '-' || c == ' ').reverse
  let hyphens := tail.dropWhile (· == ' ')
  if hyphens.count '-' = trailer.length then
    some (String.ofList (rest.take (rest.length - hyphens.length)))
  else none

/-- The label of certificates. -/
def certificateLabel : String := "CERTIFICATE"

/-- The labels of sections whose bytes are read. -/
def labels : List String :=
  [certificateLabel, "PUBLIC KEY", "RSA PRIVATE KEY", "PRIVATE KEY", "EC PRIVATE KEY", "X509 CRL",
    "CERTIFICATE REQUEST", "ECHCONFIG"]

/-- The line ends a section. -/
def isEnd (sect : PemSection) (line : List Char) : Bool :=
  startsWith line ("-----END " ++ sect.label ++ trailer)

/-- The certificates in lines, up to the first fault, which comes last. -/
def readLines : Option PemSection → List (List Char) → List (Except PemFault (List UInt8))
  | none, [] => []
  | some sect, [] => [.error (.unfinished sect.label)]
  | current, line :: rest =>
    if startsWith line beginning then
      match label? (line.drop beginning.length) with
      | none => [.error (.badBeginning (String.ofList line))]
      | some label => readLines (some ⟨label, ((current.map (·.body)).getD [])⟩) rest
    else
      match current with
      | none => readLines none rest
      | some sect =>
        if isEnd sect line then
          if labels.contains sect.label then
            match Text.base64Decode? sect.body with
            | none => [.error .badBytes]
            | some bytes =>
              if sect.label = certificateLabel then .ok bytes :: readLines none rest
              else readLines none rest
          else readLines none rest
        else readLines (some { sect with body := sect.body ++ line }) rest

/-- The certificates in a text, up to the first fault, which comes last. -/
def certificates (text : String) : List (Except PemFault (List UInt8)) :=
  readLines none (Text.split (fun c => c == '\n' || c == '\r') text.toList)

end Pem

end StatsBoard
