import StatsBoard.Text.Numeral

/-!
# Failures of the connections to a server

Both connections to a server, the stream of events and the requests for histories, fail for the
causes listed here.
-/

namespace StatsBoard

/-- Why an exchange with the server failed. -/
inductive TransportError where
  /-- The request could not be made or answered. -/
  | http (reason : String)
  /-- The server answered with a status that is no success. -/
  | status (code : Nat)
  /-- The answer could not be decoded. -/
  | parse (reason : String)
  /-- The server could not be reached. -/
  | connection (reason : String)
  /-- The answer took too long. -/
  | timeout
  /-- The other end of the connection is gone. -/
  | closed
  /-- The address cannot be used. -/
  | url (reason : String)
  /-- The trusted certificates cannot be used. -/
  | tls (reason : String)
  /-- A file could not be read. -/
  | io (reason : String)
deriving DecidableEq, Repr

namespace TransportError

/-- What is said of a failure. -/
def message : TransportError → String
  | http reason => "HTTP request failed: " ++ reason
  | status code => "server returned status " ++ Text.natNumeral code
  | parse reason => "failed to parse response: " ++ reason
  | connection reason => "connection failed: " ++ reason
  | timeout => "request timed out"
  | closed => "channel closed"
  | url reason => "invalid url: " ++ reason
  | tls reason => "TLS setup failed: " ++ reason
  | io reason => reason

end TransportError

end StatsBoard
