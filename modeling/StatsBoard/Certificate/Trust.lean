import StatsBoard.Certificate.Basic
import StatsBoard.Certificate.Pem
import StatsBoard.File.Basic
import StatsBoard.History.Client
import StatsBoard.Stream.Address

/-!
# Whom to trust

A file of certificates can be given that says which servers are trusted. Those who ask for
histories add it to what they trust already; a stream trusts nothing else, so that the file must
hold a certificate.
-/

namespace StatsBoard

/-- A file of certificates: its path, and its text if it can be read. -/
structure TrustFile where
  path : String
  content : Except FileFault String

namespace TrustFile

/-- What is said of bytes that are no certificate. -/
def badCertificate : String := "invalid peer certificate: BadEncoding"

/-- The failure of one entry of the file for a stream. -/
def streamFault? : Except PemFault (List UInt8) → Option TransportError
  | .error fault => some (.io fault.message)
  | .ok bytes => if Certificate.isTrustworthy bytes then none else some (.tls badCertificate)

/-- Trust nothing but the file on a stream. -/
def forStream (file : TrustFile) : Except TransportError Unit :=
  match file.content with
  | .error fault => .error (.io fault.message)
  | .ok text =>
    match Pem.certificates text with
    | [] => .error (.tls ("no certificates found in " ++ file.path))
    | entries =>
      match entries.findSome? streamFault? with
      | some failure => .error failure
      | none => .ok ()

/-- Trust the file as well when histories are asked for. -/
def forRequests (file : TrustFile) : Except TransportError Unit :=
  match file.content with
  | .error fault => .error (.io fault.message)
  | .ok text =>
    if (Pem.certificates text).all fun entry => (streamFault? entry).isNone then .ok ()
    else .error (.http "builder error")

end TrustFile

/-- Get ready to ask for histories under an endpoint. -/
def Url.openEndpoint (text : String) (trust : Option TrustFile) : Except TransportError Url := do
  let endpoint ← Url.parseEndpoint text
  match trust with
  | some file => file.forRequests
  | none => .ok ()
  return endpoint

/-- How the attempt to open a stream ends when nobody answers. Trust is settled first. -/
def StreamAddress.openUnanswered (text : String) (trust : Option TrustFile) : TransportError :=
  match trust.map TrustFile.forStream with
  | some (.error failure) => failure
  | _ => StreamAddress.unanswered text

end StatsBoard
