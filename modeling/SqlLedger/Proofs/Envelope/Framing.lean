/-
Frames are read exactly from their octets.

A frame is its header followed by its data, and both readers of frames begin alike: they read a
header and cut the data behind it. So the file first settles headers, which are exactly the
octets of a name field and of two lengths that their words can hold, and then the cut, which gives
back the two segments whatever follows them. From these, one equivalence for each reader. The
reader of a buffer accepts a frame exactly if the buffer begins with its octets and its lengths
fit their words. The reader of a stream accepts it exactly if, in addition, its data stay within
the limit, and it leaves exactly what follows the frame; the limit is below what the words hold,
so there the condition on the lengths is not seen.

What either reader makes of any octets at all is put as two equations each: one for octets that
are too few for a header, and one for a header with whatever data behind it. These two kinds are
all there is (`Header.exists_eq_encode_append`).
-/

import SqlLedger.Envelope.Frame
import SqlLedger.Proofs.Wire.Laws

namespace SqlLedger.Envelope

/-! ### Headers -/

/-- The octets of a header. -/
def Header.encode (header : Header) : Bytes :=
  header.name.octets ++ (Bytes.littleEndian 4 header.payloadLength
    ++ Bytes.littleEndian 4 header.extraLength)

/-- The headers whose lengths their words can hold. -/
def Header.Fits (header : Header) : Prop :=
  header.payloadLength < Bytes.wordCount 4 ∧ header.extraLength < Bytes.wordCount 4

theorem Header.length_encode (header : Header) : header.encode.length = headerSize := by
  simp only [Header.encode, List.length_append, header.name.length_octets,
    Bytes.length_littleEndian]
  rfl

/-- The header of a frame. -/
def header (envelope : Envelope) : Header :=
  ⟨envelope.name, envelope.payload.length, envelope.extra.length⟩

/-- A frame is its header followed by its two segments. -/
theorem encode_eq (envelope : Envelope) :
    envelope.encode = envelope.header.encode ++ (envelope.payload ++ envelope.extra) := by
  simp only [encode, Header.encode, header, List.append_assoc]

theorem length_encode (envelope : Envelope) :
    envelope.encode.length = headerSize + envelope.header.dataLength := by
  rw [encode_eq, List.length_append, List.length_append, Header.length_encode]
  rfl

/-- A header is read back from its octets, whatever follows them. -/
theorem Header.read?_encode_append {header : Header} (fits : header.Fits) (data : Bytes) :
    Header.read? (header.encode ++ data) = some header := by
  have enough : headerSize ≤ (header.encode ++ data).length := by
    rw [List.length_append, header.length_encode]
    exact Nat.le_add_right _ _
  have name : (header.encode ++ data).take NameField.width = header.name.octets := by
    rw [encode, List.append_assoc]
    exact List.take_left' header.name.length_octets
  have behindName : (header.encode ++ data).drop NameField.width =
      Bytes.littleEndian 4 header.payloadLength ++
        (Bytes.littleEndian 4 header.extraLength ++ data) := by
    rw [encode, List.append_assoc, List.append_assoc]
    exact List.drop_left' header.name.length_octets
  have behindPayloadLength : (header.encode ++ data).drop (NameField.width + 4) =
      Bytes.littleEndian 4 header.extraLength ++ data := by
    rw [← List.drop_drop, behindName]
    exact List.drop_left' (Bytes.length_littleEndian 4 _)
  rw [read?, dif_pos enough]
  simp only [name, behindName, behindPayloadLength,
    List.take_left' (Bytes.length_littleEndian 4 _), Bytes.littleEndianValue_littleEndian,
    Nat.mod_eq_of_lt fits.1, Nat.mod_eq_of_lt fits.2]

/-- A header is read only from its octets, and its lengths fit their words. -/
theorem Header.encode_append_of_read? {header : Header} {bytes : Bytes}
    (read : Header.read? bytes = some header) :
    header.Fits ∧ header.encode ++ bytes.drop headerSize = bytes := by
  unfold Header.read? at read
  split at read
  · rename_i enough
    cases read
    simp only [headerSize, NameField.width] at enough
    have payloadWord : ((bytes.drop NameField.width).take 4).length = 4 := by
      rw [List.length_take, List.length_drop, NameField.width]
      omega
    have extraWord : ((bytes.drop (NameField.width + 4)).take 4).length = 4 := by
      rw [List.length_take, List.length_drop, NameField.width]
      omega
    have payloadSmall := Bytes.littleEndianValue_lt ((bytes.drop NameField.width).take 4)
    have extraSmall := Bytes.littleEndianValue_lt ((bytes.drop (NameField.width + 4)).take 4)
    rw [payloadWord] at payloadSmall
    rw [extraWord] at extraSmall
    refine ⟨⟨payloadSmall, extraSmall⟩, ?_⟩
    simp only [encode]
    rw [← (Bytes.eq_littleEndian_iff payloadSmall).mpr ⟨payloadWord, rfl⟩,
      ← (Bytes.eq_littleEndian_iff extraSmall).mpr ⟨extraWord, rfl⟩]
    simp only [headerSize, List.append_assoc, ← List.drop_drop, List.take_append_drop]
  · cases read

theorem Header.read?_eq_none_iff {bytes : Bytes} :
    Header.read? bytes = none ↔ bytes.length < headerSize := by
  unfold Header.read?
  split
  · rename_i enough
    constructor
    · intro absent
      cases absent
    · intro short
      exact absurd enough (Nat.not_le_of_lt short)
  · rename_i short
    exact ⟨fun _ => Nat.lt_of_not_le short, fun _ => rfl⟩

/-- Octets that are enough for a header are a header and what stands behind it. -/
theorem Header.exists_eq_encode_append {bytes : Bytes} (enough : headerSize ≤ bytes.length) :
    ∃ (header : Header) (data : Bytes), header.Fits ∧ bytes = header.encode ++ data := by
  cases read : Header.read? bytes with
  | none => exact absurd enough (Nat.not_le_of_lt (Header.read?_eq_none_iff.mp read))
  | some header =>
    obtain ⟨fits, whole⟩ := Header.encode_append_of_read? read
    exact ⟨header, bytes.drop headerSize, fits, whole.symm⟩

/-! ### Cutting the data -/

/-- The cut gives back the segments of a frame, whatever follows them. -/
theorem cut_header_append (envelope : Envelope) (rest : Bytes) :
    envelope.header.cut (envelope.payload ++ envelope.extra ++ rest) = envelope := by
  simp only [Header.cut, header, List.append_assoc, List.take_left, List.drop_left]

/-- If the declared data is there, the cut loses nothing of it. -/
theorem Header.cut_spec {header : Header} {data : Bytes}
    (enough : header.dataLength ≤ data.length) :
    (header.cut data).header = header ∧
      (header.cut data).payload ++ (header.cut data).extra ++ data.drop header.dataLength =
        data := by
  simp only [dataLength] at enough
  constructor
  · simp only [cut, Envelope.header, List.length_take, List.length_drop,
      Nat.min_eq_left (show header.payloadLength ≤ data.length by omega),
      Nat.min_eq_left (show header.extraLength ≤ data.length - header.payloadLength by omega)]
  · simp only [cut, dataLength]
    rw [List.append_assoc, ← List.drop_drop, List.take_append_drop, List.take_append_drop]

/-! ### The reader of a buffer -/

/-- A frame is read from a buffer exactly if the buffer begins with its octets and its lengths
fit their words. -/
theorem decode_eq_ok_iff_isPrefix {bytes : Bytes} {envelope : Envelope} :
    decode bytes = .ok envelope ↔ envelope.header.Fits ∧ envelope.encode <+: bytes := by
  unfold decode
  constructor
  · intro decoded
    split at decoded
    · cases decoded
    · rename_i found read
      obtain ⟨fits, whole⟩ := Header.encode_append_of_read? read
      simp only at decoded
      split at decoded
      · cases decoded
      · rename_i enough
        obtain ⟨same, rebuilt⟩ := Header.cut_spec (Nat.le_of_not_lt enough)
        cases decoded
        refine ⟨by rw [same]; exact fits, (bytes.drop headerSize).drop found.dataLength, ?_⟩
        rw [encode_eq, same, List.append_assoc, rebuilt, whole]
  · rintro ⟨fits, rest, rfl⟩
    rw [encode_eq, List.append_assoc, Header.read?_encode_append fits]
    simp only [List.drop_left' (Header.length_encode _)]
    rw [cut_header_append, if_neg]
    simp only [List.length_append, Header.dataLength, header]
    omega

theorem decode_of_length_lt {bytes : Bytes} (short : bytes.length < headerSize) :
    decode bytes = .error (.shortHeader bytes.length) := by
  rw [decode, Header.read?_eq_none_iff.mpr short]

/-- What the reader of a buffer makes of a header and the data behind it. -/
theorem decode_header_append {header : Header} (fits : header.Fits) (data : Bytes) :
    decode (header.encode ++ data) =
      if data.length < header.dataLength then
        .error (.missingData header.dataLength data.length)
      else .ok (header.cut data) := by
  rw [decode, Header.read?_encode_append fits]
  simp only [List.drop_left' header.length_encode]

/-! ### The reader of a stream -/

/-- A length within the limit fits its word. -/
theorem header_fits_of_dataLength_le {envelope : Envelope}
    (small : envelope.header.dataLength ≤ sizeLimit) : envelope.header.Fits := by
  have limit : sizeLimit < Bytes.wordCount 4 := by decide
  simp only [Header.dataLength] at small
  exact ⟨by omega, by omega⟩

/-- A frame is read from a stream exactly if its data is within the limit and the stream is the
frame followed by what is left. -/
theorem next_eq_ok_iff {stream rest : Bytes} {envelope : Envelope} :
    next stream = (.ok envelope, rest) ↔
      envelope.header.dataLength ≤ sizeLimit ∧ stream = envelope.encode ++ rest := by
  unfold next
  constructor
  · intro read
    split at read
    · cases read
    · rename_i found readHeader
      obtain ⟨fits, whole⟩ := Header.encode_append_of_read? readHeader
      simp only at read
      split at read
      · cases read
      · rename_i within
        split at read
        · cases read
        · rename_i enough
          obtain ⟨same, rebuilt⟩ := Header.cut_spec (Nat.le_of_not_lt enough)
          cases read
          refine ⟨by rw [same]; exact Nat.le_of_not_lt within, ?_⟩
          rw [encode_eq, same, List.append_assoc, rebuilt, whole]
  · rintro ⟨small, rfl⟩
    have fits := header_fits_of_dataLength_le small
    rw [encode_eq, List.append_assoc, Header.read?_encode_append fits]
    simp only [List.drop_left' (Header.length_encode _)]
    rw [if_neg (Nat.not_lt_of_le small), cut_header_append, if_neg]
    · rw [List.drop_left']
      simp only [List.length_append, Header.dataLength, header]
    · simp only [List.length_append, Header.dataLength, header]
      omega

theorem next_of_length_lt {stream : Bytes} (short : stream.length < headerSize) :
    next stream = (.error .endOfStream, []) := by
  rw [next, Header.read?_eq_none_iff.mpr short]

/-- What the reader of a stream makes of a header and the data behind it. -/
theorem next_header_append {header : Header} (fits : header.Fits) (data : Bytes) :
    next (header.encode ++ data) =
      if sizeLimit < header.dataLength then (.error (.oversized header.dataLength), data)
      else if data.length < header.dataLength then (.error .endOfStream, [])
      else (.ok (header.cut data), data.drop header.dataLength) := by
  rw [next, Header.read?_encode_append fits]
  simp only [List.drop_left' header.length_encode]

end SqlLedger.Envelope
