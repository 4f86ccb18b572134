import StatsBoard.Transport

/-!
# Faults of a stream

What can go wrong on the connection that carries a stream, and what that means to those who use
it.
-/

namespace StatsBoard

/-- Why an address cannot be that of a stream. -/
inductive StreamAddressFault where
  | noHost
  | emptyHost
  | badScheme
  | unreachable (address : String)
deriving DecidableEq, Repr

namespace StreamAddressFault

/-- What is said of an address. -/
def message : StreamAddressFault → String
  | noHost => "No host name in the URL"
  | emptyHost => "URL contains empty host name"
  | badScheme => "URL scheme not supported"
  | unreachable address => "Unable to connect to " ++ address

end StreamAddressFault

/-- Why a stream cannot be opened, read or written. -/
inductive StreamFault where
  /-- The connection was closed as it should be. -/
  | closed
  /-- The connection had ended before. -/
  | alreadyClosed
  | address (fault : StreamAddressFault)
  /-- The text of the address is no address at all. -/
  | malformedAddress
  /-- The name of the server cannot stand in a certificate. -/
  | badServerName
  | io (reason : String)
  | notUtf8
  | attack
  /-- The connection ended without a farewell. -/
  | cut
  /-- Something was to be written after the farewell. -/
  | writeAfterClose
  | tooManyHeaders
deriving DecidableEq, Repr

namespace StreamFault

/-- What is said of a fault. -/
def message : StreamFault → String
  | closed => "Connection closed normally"
  | alreadyClosed => "Trying to work with closed connection"
  | address fault => "URL error: " ++ fault.message
  | malformedAddress => "HTTP format error: invalid uri character"
  | badServerName => "TLS error: Invalid DNS name"
  | io reason => "IO error: " ++ reason
  | notUtf8 => "UTF-8 encoding error"
  | attack => "Attack attempt detected"
  | cut => "WebSocket protocol error: Connection reset without closing handshake"
  | writeAfterClose => "WebSocket protocol error: Sending after closing is not allowed"
  | tooManyHeaders => "Space limit exceeded: Too many headers"

/-- A fault as a failure of the exchange with the server. Faults without a kind of their own are
failures of the connection. -/
def failure : StreamFault → TransportError
  | closed | alreadyClosed => .closed
  | address fault => .url fault.message
  | badServerName => .tls "Invalid DNS name"
  | io reason => .io reason
  | fault => .connection fault.message

end StreamFault

end StatsBoard
