/-
What can go wrong between a node and its peers.

Each error is a cause with its detail as text, because the detail may come from a peer. Four of
them are failures of the transport, which a caller may retry or take as a reason to drop the peer;
the others are answers, and asking again gives the same one.
-/

import SqlLedger.Text.Quoted

namespace SqlLedger

/-- Errors of the framing, of the transport and of the far end. -/
inductive NetworkError
  /-- The address cannot be a node's. -/
  | addressInvalid (detail : String)
  /-- Nothing answers at the address. -/
  | cannotConnect (peer : String)
  /-- The connection broke, or the peer did not take the request in time. -/
  | cannotSend (detail : String)
  /-- The peer closed the connection without an answer. -/
  | noResponse
  /-- The peer stayed silent until the read deadline. -/
  | responseTimeout (peer : String)
  /-- The answer does not have the shape that the request calls for. -/
  | cannotParseResponse (detail : String)
  /-- The peer rejected the request, in its own words. -/
  | remote (text : String)
  /-- A value has no encoding. -/
  | encoding (detail : String)
  /-- A frame or its payload is not well formed. -/
  | malformedEnvelope (detail : String)
  /-- The catalog has no command of this name. -/
  | unknownCommand (name : String)
  deriving DecidableEq, Repr

namespace NetworkError

/-- The wording of an error. What a peer said is passed on as it is. -/
def message : NetworkError → String
  | addressInvalid detail => s!"node address is invalid: {detail}"
  | cannotConnect peer => s!"{peer} is not available"
  | cannotSend detail => s!"cannot send data: {detail}"
  | noResponse => "received 0 bytes as a response, expected at least 1 byte"
  | responseTimeout peer => s!"no response from {peer} before the read deadline"
  | cannotParseResponse detail => s!"cannot parse response: {detail}"
  | remote text => text
  | encoding detail => s!"cannot encode payload: {detail}"
  | malformedEnvelope detail => s!"malformed envelope: {detail}"
  | unknownCommand name => s!"unknown command: {name}"

/-- The name of the cause. -/
def label : NetworkError → String
  | addressInvalid _ => "AddressInvalid"
  | cannotConnect _ => "CannotConnect"
  | cannotSend _ => "CannotSend"
  | noResponse => "NoResponse"
  | responseTimeout _ => "ResponseTimeout"
  | cannotParseResponse _ => "CannotParseResponse"
  | remote _ => "RemoteError"
  | encoding _ => "Encoding"
  | malformedEnvelope _ => "MalformedEnvelope"
  | unknownCommand _ => "UnknownCommand"

/-- The error as a diagnostic shows it: its cause, and its detail quoted. -/
def diagnostic (error : NetworkError) : String :=
  match error with
  | addressInvalid detail | cannotConnect detail | cannotSend detail | responseTimeout detail
  | cannotParseResponse detail | remote detail | malformedEnvelope detail
  | unknownCommand detail => s!"{error.label}({Text.quoted detail})"
  | encoding detail => s!"{error.label}(Custom({Text.quoted detail}))"
  | noResponse => error.label

/-- Failures of the transport, as opposed to answers. -/
def isTransport : NetworkError → Bool
  | cannotConnect _ | cannotSend _ | noResponse | responseTimeout _ => true
  | _ => false

end NetworkError

end SqlLedger
