/-
What a frame says.

A frame is dispatched by its name alone: the catalog knows the command or the frame is refused,
and the command decides how the payload is read. The extra segment is handed on as it is, since
it means something only to the node that checks the token.
-/

import SqlLedger.Envelope.Frame
import SqlLedger.Message.Payload

namespace SqlLedger.Envelope

/-- The command that a frame names. -/
def command (envelope : Envelope) : Except NetworkError Command :=
  Command.ofName envelope.name.name

/-- The payload of a frame, read by the command that the frame names. -/
def contents (envelope : Envelope) : Except NetworkError Payload :=
  match envelope.command with
  | .ok command => Payload.decode command envelope.payload
  | .error error => .error error

/-- Reads the frame at the front of a buffer: its payload and its extra segment, or what goes
wrong first. -/
def receive (bytes : Bytes) : Except NetworkError (Payload × Bytes) :=
  match decode bytes with
  | .error fault => .error fault.toNetworkError
  | .ok envelope => envelope.contents.map fun payload => (payload, envelope.extra)

end SqlLedger.Envelope
