/-
Answers: a status octet and a body.

A node that answers writes one octet of status, then the body, and closes the connection. Status 1
is a success, whose body is the encoded value or nothing; any other status is a failure, whose body
is the reason in words. An answer without even a status is no answer.
-/

import SqlLedger.NetworkError
import SqlLedger.Wire.Codec

namespace SqlLedger

/-- An answer as it travels. -/
structure Response where
  status : UInt8
  body : Bytes
  deriving DecidableEq, Repr

namespace Response

/-- The status of a success. -/
def successStatus : UInt8 := 1

/-- The status that nodes give a failure; any status but that of a success is read as one. -/
def failureStatus : UInt8 := 0

/-- A success with a value. -/
def success {α : Type} (codec : Codec α) (value : α) : Response :=
  ⟨successStatus, codec.write value⟩

/-- A failure with its reason. -/
def failure (reason : String) : Response :=
  ⟨failureStatus, Utf8.encode reason⟩

/-- Whether the status is that of a success. -/
def isSuccess (response : Response) : Bool :=
  response.status == successStatus

/-- The octets of an answer. -/
def encode (response : Response) : Bytes :=
  response.status :: response.body

/-- Reads an answer; no octets are no answer. -/
def decode : Bytes → Except NetworkError Response
  | [] => .error .noResponse
  | status :: body => .ok ⟨status, body⟩

/-- The body of a success. A failure becomes the peer's own words, if they are text at all. -/
def successBody (response : Response) : Except NetworkError Bytes :=
  if response.isSuccess then .ok response.body
  else
    match Utf8.decode response.body with
    | .ok reason => .error (.remote reason)
    | .error fault => .error (.cannotParseResponse fault.message)

end Response

end SqlLedger
