/-
Reading a frame from a buffer undoes writing it, exactly as far as lengths fit their words.

A buffer is a frame with anything behind it, or it is refused, and the refusal says how much is
there and how much is missing. Three things are added here to the equivalence for frames that are
read. The refusals are told apart by what the buffer opens with, so that their numbers are those
of the buffer. Every position that the reader cuts at lies within the buffer: the same reader
written with slices and a difference that can fail (`decodeChecked`) never fails and gives the
same result. And a frame with lengths beyond their words is written with the lengths wrapped
(`Header.wrapped`), so that what is read back is cut at other places, without a complaint.
-/

import SqlLedger.Proofs.Envelope.Framing

namespace SqlLedger.Envelope

/-! ### Positions within the buffer -/

/-- The octets from one position up to another, if the positions are in order and the octets reach
that far. -/
def slice? (bytes : Bytes) (start stop : Nat) : Option Bytes :=
  if start ≤ stop ∧ stop ≤ bytes.length then some ((bytes.drop start).take (stop - start))
  else none

/-- What is left of a number, if no more is taken than there is. -/
def difference? (whole part : Nat) : Option Nat :=
  if part ≤ whole then some (whole - part) else none

/-- Reads the frame at the front of a buffer with slices and a difference that can fail. There is
a result only if none of them does. -/
def decodeChecked (bytes : Bytes) : Option (Except Fault Envelope) :=
  if bytes.length < headerSize then some (.error (.shortHeader bytes.length))
  else do
    let name ← slice? bytes 0 NameField.width
    let payloadWord ← slice? bytes NameField.width (NameField.width + 4)
    let extraWord ← slice? bytes (NameField.width + 4) headerSize
    let payloadLength := Bytes.littleEndianValue payloadWord
    let extraLength := Bytes.littleEndianValue extraWord
    let payloadEnd := headerSize + payloadLength
    let extraEnd := payloadEnd + extraLength
    if bytes.length < extraEnd then
      let present ← difference? bytes.length headerSize
      return .error (.missingData (payloadLength + extraLength) present)
    else
      let payload ← slice? bytes headerSize payloadEnd
      let extra ← slice? bytes payloadEnd extraEnd
      if fits : name.length = 12 then return .ok ⟨⟨name, fits⟩, payload, extra⟩ else none

/-- A part that stands between two positions is the slice between them. -/
theorem slice?_append (before middle after : Bytes) {start stop : Nat}
    (atStart : before.length = start) (atStop : start + middle.length = stop) :
    slice? (before ++ (middle ++ after)) start stop = some middle := by
  subst atStart atStop
  rw [slice?, if_pos, List.drop_left, Nat.add_sub_cancel_left, List.take_left]
  simp only [List.length_append]
  omega

/-- The three parts of a header are the slices at their positions. -/
theorem slice?_header (header : Header) (data : Bytes) :
    slice? (header.encode ++ data) 0 NameField.width = some header.name.octets ∧
    slice? (header.encode ++ data) NameField.width (NameField.width + 4) =
      some (Bytes.littleEndian 4 header.payloadLength) ∧
    slice? (header.encode ++ data) (NameField.width + 4) headerSize =
      some (Bytes.littleEndian 4 header.extraLength) := by
  have nameLength : header.name.octets.length = NameField.width := header.name.length_octets
  simp only [Header.encode, List.append_assoc]
  refine ⟨?_, ?_, ?_⟩
  · refine slice?_append [] header.name.octets _ rfl ?_
    rw [Nat.zero_add, nameLength]
  · refine slice?_append header.name.octets _ _ nameLength ?_
    rw [Bytes.length_littleEndian]
  · rw [← List.append_assoc]
    refine slice?_append _ _ _ ?_ ?_
    · rw [List.length_append, nameLength, Bytes.length_littleEndian]
    · rw [Bytes.length_littleEndian]
      rfl

/-- The two segments are the slices behind the header, if the declared data is there. -/
theorem slice?_data {header : Header} {data : Bytes} (enough : header.dataLength ≤ data.length) :
    slice? (header.encode ++ data) headerSize (headerSize + header.payloadLength) =
      some (header.cut data).payload ∧
    slice? (header.encode ++ data) (headerSize + header.payloadLength)
        (headerSize + header.payloadLength + header.extraLength) =
      some (header.cut data).extra := by
  obtain ⟨same, rebuilt⟩ := Header.cut_spec enough
  have payloadLength : (header.cut data).payload.length = header.payloadLength :=
    congrArg Header.payloadLength same
  have extraLength : (header.cut data).extra.length = header.extraLength :=
    congrArg Header.extraLength same
  rw [List.append_assoc] at rebuilt
  generalize header.cut data = envelope at *
  rw [← rebuilt]
  constructor
  · refine slice?_append header.encode envelope.payload _ header.length_encode ?_
    rw [payloadLength]
  · rw [← List.append_assoc]
    refine slice?_append _ envelope.extra _ ?_ ?_
    · rw [List.length_append, header.length_encode, payloadLength]
    · rw [extraLength]

/-- No slice and no difference fails, whatever the buffer, and the result is that of reading. -/
theorem decodeChecked_eq (bytes : Bytes) : decodeChecked bytes = some (decode bytes) := by
  rcases Nat.lt_or_ge bytes.length headerSize with short | enough
  · rw [decodeChecked, if_pos short, decode_of_length_lt short]
  obtain ⟨header, data, fits, rfl⟩ := Header.exists_eq_encode_append enough
  obtain ⟨name, payloadWord, extraWord⟩ := slice?_header header data
  have behind : (header.encode ++ data).length = headerSize + data.length := by
    rw [List.length_append, header.length_encode]
  have present : difference? (header.encode ++ data).length headerSize = some data.length := by
    rw [difference?, if_pos enough, behind, Nat.add_sub_cancel_left]
  rw [decodeChecked, if_neg (Nat.not_lt_of_le enough), decode_header_append fits]
  simp only [name, payloadWord, extraWord, present, Option.bind_eq_bind, Option.bind_some,
    Bytes.littleEndianValue_littleEndian, Nat.mod_eq_of_lt fits.1, Nat.mod_eq_of_lt fits.2]
  have beyond : headerSize + data.length <
      headerSize + header.payloadLength + header.extraLength ↔
        data.length < header.dataLength := by
    rw [Nat.add_assoc]
    exact Nat.add_lt_add_iff_left
  simp only [behind, beyond]
  split
  · rfl
  · rename_i whole
    obtain ⟨payload, extra⟩ := slice?_data (Nat.le_of_not_lt whole)
    simp only [payload, extra, Option.bind_some]
    rw [dif_pos header.name.length_octets]
    rfl

/-! ### Lengths beyond their words -/

/-- The header with its lengths as their words hold them. -/
def Header.wrapped (header : Header) : Header where
  name := header.name
  payloadLength := header.payloadLength % Bytes.wordCount 4
  extraLength := header.extraLength % Bytes.wordCount 4

theorem Header.wrapped_fits (header : Header) : header.wrapped.Fits :=
  ⟨Nat.mod_lt _ (Bytes.wordCount_pos 4), Nat.mod_lt _ (Bytes.wordCount_pos 4)⟩

theorem Header.encode_wrapped (header : Header) : header.wrapped.encode = header.encode := by
  simp only [encode, wrapped, Bytes.littleEndian_mod]

/-- The wrapped lengths never declare more data than there is. -/
theorem dataLength_wrapped_le (envelope : Envelope) :
    envelope.header.wrapped.dataLength ≤ (envelope.payload ++ envelope.extra).length := by
  rw [List.length_append]
  exact Nat.add_le_add (Nat.mod_le _ _) (Nat.mod_le _ _)

/-- The octets of a frame always read as some frame: the one that the wrapped lengths cut out of
the data. -/
theorem decode_encode (envelope : Envelope) :
    decode envelope.encode =
      .ok (envelope.header.wrapped.cut (envelope.payload ++ envelope.extra)) := by
  rw [encode_eq, ← Header.encode_wrapped, decode_header_append (Header.wrapped_fits _),
    if_neg (Nat.not_lt_of_le envelope.dataLength_wrapped_le)]

/-- The lengths that are read back are the wrapped ones. -/
theorem header_cut_wrapped (envelope : Envelope) :
    (envelope.header.wrapped.cut (envelope.payload ++ envelope.extra)).header =
      envelope.header.wrapped :=
  (Header.cut_spec envelope.dataLength_wrapped_le).1

/-- A frame is read back from its own octets exactly if its lengths fit their words. -/
theorem cut_wrapped_eq_iff (envelope : Envelope) :
    envelope.header.wrapped.cut (envelope.payload ++ envelope.extra) = envelope ↔
      envelope.header.Fits := by
  constructor
  · intro same
    have wrapped := header_cut_wrapped envelope
    rw [same] at wrapped
    rw [wrapped]
    exact envelope.header.wrapped_fits
  · intro fits
    have decoded := decode_eq_ok_iff_isPrefix.mpr ⟨fits, List.prefix_refl envelope.encode⟩
    rw [decode_encode] at decoded
    exact Except.ok.inj decoded

/-! ### Refusals -/

/-- What the refusal of a buffer says, and when it may say so: how much there is of a header that
is not complete, or how much data the header declares and how much stands behind it. -/
inductive Refused : Bytes → String → Prop
  | header {bytes : Bytes} (short : bytes.length < headerSize) :
    Refused bytes s!"got {bytes.length} bytes, header needs {headerSize}"
  | data {header : Header} {data : Bytes} (fits : header.Fits)
    (missing : data.length < header.dataLength) :
    Refused (header.encode ++ data)
      s!"envelope declares {header.dataLength} bytes of data but only {data.length} are present"

/-- A buffer is read as a frame or refused for a reason that it gives. -/
theorem decode_cases (bytes : Bytes) :
    (∃ envelope, decode bytes = .ok envelope) ∨
      ∃ fault, decode bytes = .error fault ∧ Refused bytes fault.message := by
  rcases Nat.lt_or_ge bytes.length headerSize with short | enough
  · exact Or.inr ⟨_, decode_of_length_lt short, Refused.header short⟩
  obtain ⟨header, data, fits, rfl⟩ := Header.exists_eq_encode_append enough
  rw [decode_header_append fits]
  split
  · rename_i missing
    exact Or.inr ⟨_, rfl, Refused.data fits missing⟩
  · exact Or.inl ⟨_, rfl⟩

/-! ### The reader of a buffer undoes the writer -/

/-- Reading a frame from a buffer undoes writing it. A buffer is read as a frame exactly if both
lengths of the frame fit four octets and the buffer begins with the octets of the frame; any other
buffer is refused as malformed, with the numbers that are true of it. No position that the reader
cuts at lies outside the buffer. And the octets of a frame are always read without a complaint,
with each length taken modulo what its word can hold, so that the frame comes back exactly if
neither length was too long for its word. -/
theorem decode_inverts_encode :
    (∀ (bytes : Bytes) (envelope : Envelope), decode bytes = .ok envelope ↔
      envelope.payload.length < UInt32.size ∧ envelope.extra.length < UInt32.size ∧
        envelope.encode <+: bytes) ∧
    (∀ bytes : Bytes, (∃ envelope, decode bytes = .ok envelope) ∨
      ∃ fault detail, decode bytes = .error fault ∧
        fault.toNetworkError = .malformedEnvelope detail ∧ Refused bytes detail) ∧
    (∀ bytes : Bytes, decodeChecked bytes = some (decode bytes)) ∧
    ∀ envelope : Envelope, ∃ back, decode envelope.encode = .ok back ∧
      back.payload.length = envelope.payload.length % UInt32.size ∧
      back.extra.length = envelope.extra.length % UInt32.size ∧
      (back = envelope ↔
        envelope.payload.length < UInt32.size ∧ envelope.extra.length < UInt32.size) := by
  refine ⟨?_, ?_, decodeChecked_eq, ?_⟩
  · intro bytes envelope
    rw [← and_assoc]
    exact decode_eq_ok_iff_isPrefix
  · intro bytes
    rcases decode_cases bytes with found | ⟨fault, refused, reason⟩
    · exact Or.inl found
    · exact Or.inr ⟨fault, fault.message, refused, rfl, reason⟩
  · intro envelope
    have wrapped := header_cut_wrapped envelope
    exact ⟨_, decode_encode envelope, congrArg Header.payloadLength wrapped,
      congrArg Header.extraLength wrapped, cut_wrapped_eq_iff envelope⟩

end SqlLedger.Envelope
