/-
Frames: how a command travels.

A frame is a header of twenty octets and two segments. The header holds the name field and the
lengths of the segments, each as a word of four octets; the payload comes first, the extra segment
with the authorization token second. A length that its word cannot hold is written modulo the
word, so such a frame reads back as another one.

Frames are read in two ways. `Envelope.decode` reads one from a buffer and tolerates what follows
it. `Envelope.next` reads one from a stream, refuses to wait for more data than `sizeLimit`, and
reports what is left of the stream: after the refusal everything behind the header, after any
other failure nothing. `Envelope.readAll` reads frames for as long as there are any.
-/

import SqlLedger.Envelope.Name
import SqlLedger.NetworkError

namespace SqlLedger

/-- A command frame: the name field and the two segments. -/
structure Envelope where
  name : NameField
  payload : Bytes
  extra : Bytes
  deriving DecidableEq

namespace Envelope

/-- The octets of a header: the name field and two lengths. -/
def headerSize : Nat := NameField.width + 4 + 4

/-- How much data, payload and extra together, a frame on a stream may declare. -/
def sizeLimit : Nat := 64 * 1024 * 1024

/-- Why a frame is refused. -/
inductive Fault
  /-- The name is empty or has more than twelve octets. -/
  | nameWidth (name : String)
  /-- A buffer is shorter than a header. -/
  | shortHeader (present : Nat)
  /-- A buffer ends before the declared data does. -/
  | missingData (declared present : Nat)
  /-- A stream declares more data than the limit. -/
  | oversized (declared : Nat)
  /-- A stream ends inside a frame. -/
  | endOfStream
  deriving DecidableEq, Repr

/-- The wording of a refusal. -/
def Fault.message : Fault → String
  | .nameWidth name =>
    s!"command name {Text.quoted name} does not fit in {NameField.width} bytes"
  | .shortHeader present => s!"got {present} bytes, header needs {headerSize}"
  | .missingData declared present =>
    s!"envelope declares {declared} bytes of data but only {present} are present"
  | .oversized declared =>
    s!"envelope declares {declared} bytes of data, the limit is {sizeLimit}"
  | .endOfStream => "early eof"

/-- A refusal as an error of the network. -/
def Fault.toNetworkError (fault : Fault) : NetworkError :=
  .malformedEnvelope fault.message

/-! ### Building and writing -/

/-- A frame for a named command, unless the name does not fit its field. -/
def create (name : String) (payload extra : Bytes) : Except Fault Envelope :=
  match NameField.ofName? name with
  | some field => .ok ⟨field, payload, extra⟩
  | none => .error (.nameWidth name)

/-- The octets of a frame. -/
def encode (envelope : Envelope) : Bytes :=
  envelope.name.octets ++ (Bytes.littleEndian 4 envelope.payload.length
    ++ (Bytes.littleEndian 4 envelope.extra.length ++ (envelope.payload ++ envelope.extra)))

/-! ### Reading -/

/-- What a header says about the frame it opens. -/
structure Header where
  name : NameField
  payloadLength : Nat
  extraLength : Nat
  deriving DecidableEq

/-- How much data a header declares. -/
def Header.dataLength (header : Header) : Nat :=
  header.payloadLength + header.extraLength

/-- Reads the header at the front of the octets, if all of it is there. -/
def Header.read? (bytes : Bytes) : Option Header :=
  if enough : headerSize ≤ bytes.length then
    some {
      name := ⟨bytes.take NameField.width, by
        simp only [headerSize, NameField.width] at enough
        simp only [List.length_take, NameField.width]
        omega⟩
      payloadLength := Bytes.littleEndianValue ((bytes.drop NameField.width).take 4)
      extraLength := Bytes.littleEndianValue ((bytes.drop (NameField.width + 4)).take 4) }
  else none

/-- Cuts the two segments out of the data behind a header. -/
def Header.cut (header : Header) (data : Bytes) : Envelope where
  name := header.name
  payload := data.take header.payloadLength
  extra := (data.drop header.payloadLength).take header.extraLength

/-- Reads the frame at the front of a buffer. -/
def decode (bytes : Bytes) : Except Fault Envelope :=
  match Header.read? bytes with
  | none => .error (.shortHeader bytes.length)
  | some header =>
    let data := bytes.drop headerSize
    if data.length < header.dataLength then
      .error (.missingData header.dataLength data.length)
    else .ok (header.cut data)

/-- Reads one frame from a stream, and tells what is left of the stream. -/
def next (stream : Bytes) : Except Fault Envelope × Bytes :=
  match Header.read? stream with
  | none => (.error .endOfStream, [])
  | some header =>
    let data := stream.drop headerSize
    if sizeLimit < header.dataLength then (.error (.oversized header.dataLength), data)
    else if data.length < header.dataLength then (.error .endOfStream, [])
    else (.ok (header.cut data), data.drop header.dataLength)

/-- A frame that was read has taken at least its header from the stream. -/
theorem headerSize_add_length_le_of_next {stream rest : Bytes} {envelope : Envelope}
    (read : next stream = (.ok envelope, rest)) : headerSize + rest.length ≤ stream.length := by
  unfold next at read
  split at read
  · simp at read
  · rename_i header found
    have enough : headerSize ≤ stream.length := by
      unfold Header.read? at found
      split at found
      · assumption
      · simp at found
    simp only at read
    split at read
    · simp at read
    · split at read
      · simp at read
      · obtain ⟨-, rfl⟩ := Prod.mk.inj read
        simp only [List.length_drop]
        omega

/-- Reads frames until one fails or nothing is left, and keeps each result together with what was
left of the stream after it. One reading always takes place. -/
def readAll (stream : Bytes) : List (Except Fault Envelope × Bytes) :=
  match _read : next stream with
  | (.ok envelope, []) => [(.ok envelope, [])]
  | (.ok envelope, first :: rest) => (.ok envelope, first :: rest) :: readAll (first :: rest)
  | (.error fault, rest) => [(.error fault, rest)]
termination_by stream.length
decreasing_by
  have := headerSize_add_length_le_of_next _read
  simp only [headerSize, NameField.width] at this
  omega

end Envelope

end SqlLedger
