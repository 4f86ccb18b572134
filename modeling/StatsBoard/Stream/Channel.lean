import StatsBoard.Log
import StatsBoard.Stream.Event
import StatsBoard.Stream.Fault
import StatsBoard.Text.Percent

/-!
# A stream once it is open

The server sends messages until it closes the stream or is cut off. What the messages say is
decoded into events; what cannot be decoded is passed over. Requests go the other way. After the
stream is over one more request is taken, whose failure ends the sending, and none after that.
-/

namespace StatsBoard

/-- What the server does on an open stream. -/
inductive ServerMessage where
  | text (text : String)
  | binary (bytes : List UInt8)
  | ping
  /-- The server takes its leave. -/
  | close
  /-- The connection breaks. -/
  | cut
deriving DecidableEq, Repr

/-- What has been read from a stream. -/
structure StreamReading where
  events : List StreamEvent := []
  log : List LogEvent := []

namespace StreamReading

/-- The event of one text. -/
def ofText (text : String) : StreamReading :=
  match StreamEvent.decode text with
  | .ok event => { events := event.toList }
  | .error error => { log := [.frameSkipped error.category] }

/-- What is read first, and then the rest. -/
def andThen (first rest : StreamReading) : StreamReading :=
  ⟨first.events ++ rest.events, first.log ++ rest.log⟩

/-- What is read from all messages. Nothing counts after the end of the stream. -/
def ofMessages : List ServerMessage → StreamReading
  | [] | .close :: _ => { log := [.readerFinished] }
  | .cut :: _ => { log := [.readFailed StreamFault.cut.message, .readerFinished] }
  | .text text :: rest => (ofText text).andThen (ofMessages rest)
  | .binary bytes :: rest =>
    match Text.ofUtf8? bytes with
    | some text => (ofText text).andThen (ofMessages rest)
    | none => ofMessages rest
  | .ping :: rest => ofMessages rest

end StreamReading

/-- The sending side of a stream. -/
structure StreamSender where
  /-- The texts that the server has received. -/
  sent : List String := []
  /-- What becomes of a text that is sent now, if the stream is over. -/
  fault : Option StreamFault := none
  /-- A text could not be sent, and no more is taken. -/
  finished : Bool := false
deriving DecidableEq, Repr

namespace StreamSender

/-- The fault that meets a text sent after all messages of the server. -/
def faultAfter : List ServerMessage → StreamFault
  | [] | .close :: _ => .writeAfterClose
  | .cut :: _ => .alreadyClosed
  | _ :: rest => faultAfter rest

/-- The sending side after all messages of the server. -/
def after (sender : StreamSender) (messages : List ServerMessage) : StreamSender :=
  { sender with fault := some (faultAfter messages) }

/-- Ask for samples. What becomes of the request later is not told. -/
def request (sender : StreamSender) (request : StartRequest) :
    Except TransportError (StreamSender × List LogEvent) :=
  if sender.finished then .error .closed
  else
    match sender.fault with
    | none => .ok ({ sender with sent := sender.sent ++ [request.frame.encode] }, [])
    | some fault => .ok ({ sender with finished := true }, [.writeFailed fault.message])

end StreamSender

end StatsBoard
