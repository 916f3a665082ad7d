/-
The two readers of frames agree, and the reader of a stream leaves it at the right place.

The reader of a stream takes its octets in turn: a header, then the payload, then the extra
segment, each by taking exactly so many octets or, if there are fewer, all of them in vain. It is
defined in one step, so the file first writes it out in turn (`nextInTurn`) and shows that the two
are the same reader. From there it is compared with the reader of a buffer by what the octets open
with. Both make the same of a header with its data unless the declared data is beyond the limit,
where the reader of a stream stops in front of the data without looking at it, and both refuse the
same octets otherwise, where the reader of a stream has used up all there is.
-/

import SqlLedger.Proofs.Envelope.Framing

namespace SqlLedger.Envelope

/-! ### Reading in turn -/

/-- Takes exactly a number of octets off a stream. A stream that has fewer is used up before its
end is noticed. -/
def takeExactly (count : Nat) (stream : Bytes) : Except Fault Bytes × Bytes :=
  if stream.length < count then (.error .endOfStream, [])
  else (.ok (stream.take count), stream.drop count)

/-- Reads one frame from a stream, part by part, and tells what is left of the stream. -/
def nextInTurn (stream : Bytes) : Except Fault Envelope × Bytes :=
  match takeExactly headerSize stream with
  | (.error fault, rest) => (.error fault, rest)
  | (.ok octets, data) =>
    match Header.read? octets with
    | none => (.error (.shortHeader octets.length), data)
    | some header =>
      if sizeLimit < header.dataLength then (.error (.oversized header.dataLength), data)
      else
        match takeExactly header.payloadLength data with
        | (.error fault, rest) => (.error fault, rest)
        | (.ok payload, behind) =>
          match takeExactly header.extraLength behind with
          | (.error fault, rest) => (.error fault, rest)
          | (.ok extra, rest) => (.ok ⟨header.name, payload, extra⟩, rest)

theorem takeExactly_of_lt {count : Nat} {stream : Bytes} (short : stream.length < count) :
    takeExactly count stream = (.error .endOfStream, []) :=
  if_pos short

theorem takeExactly_of_le {count : Nat} {stream : Bytes} (enough : count ≤ stream.length) :
    takeExactly count stream = (.ok (stream.take count), stream.drop count) :=
  if_neg (Nat.not_lt_of_le enough)

/-- The octets of a header are taken and read as the header. -/
theorem nextInTurn_header_append {header : Header} (fits : header.Fits) (data : Bytes) :
    nextInTurn (header.encode ++ data) =
      if sizeLimit < header.dataLength then (.error (.oversized header.dataLength), data)
      else
        match takeExactly header.payloadLength data with
        | (.error fault, rest) => (.error fault, rest)
        | (.ok payload, behind) =>
          match takeExactly header.extraLength behind with
          | (.error fault, rest) => (.error fault, rest)
          | (.ok extra, rest) => (.ok ⟨header.name, payload, extra⟩, rest) := by
  have enough : headerSize ≤ (header.encode ++ data).length := by
    rw [List.length_append, header.length_encode]
    exact Nat.le_add_right _ _
  have read : Header.read? header.encode = some header := by
    have read := Header.read?_encode_append fits []
    rwa [List.append_nil] at read
  rw [nextInTurn, takeExactly_of_le enough, List.take_left' header.length_encode,
    List.drop_left' header.length_encode]
  simp only [read]

/-- Reading a frame in one step is reading it in turn: the same result, and the same rest. -/
theorem next_eq_nextInTurn (stream : Bytes) : next stream = nextInTurn stream := by
  rcases Nat.lt_or_ge stream.length headerSize with short | enough
  · rw [next_of_length_lt short, nextInTurn, takeExactly_of_lt short]
  obtain ⟨header, data, fits, rfl⟩ := Header.exists_eq_encode_append enough
  rw [next_header_append fits, nextInTurn_header_append fits]
  split
  · rfl
  rcases Nat.lt_or_ge data.length header.payloadLength with short | enough
  · have missing : data.length < header.dataLength :=
      Nat.lt_of_lt_of_le short (Nat.le_add_right _ _)
    rw [takeExactly_of_lt short, if_pos missing]
  rw [takeExactly_of_le enough]
  rcases Nat.lt_or_ge (data.drop header.payloadLength).length header.extraLength with
    short | complete
  · have missing : data.length < header.dataLength := by
      rw [List.length_drop] at short
      rw [Header.dataLength]
      omega
    simp only [takeExactly_of_lt short, if_pos missing]
  · have present : ¬ data.length < header.dataLength := by
      rw [List.length_drop] at complete
      rw [Header.dataLength]
      omega
    simp only [takeExactly_of_le complete, if_neg present, List.drop_drop]
    rfl

/-! ### The readers agree -/

/-- A frame is read from a stream exactly if it is read from the same octets as a buffer and its
data is within the limit. -/
theorem next_fst_eq_ok_iff {stream : Bytes} {envelope : Envelope} :
    (next stream).1 = .ok envelope ↔
      decode stream = .ok envelope ∧
        envelope.payload.length + envelope.extra.length ≤ sizeLimit := by
  rw [decode_eq_ok_iff_isPrefix]
  constructor
  · intro read
    obtain ⟨small, whole⟩ := next_eq_ok_iff.mp (Prod.ext read rfl)
    exact ⟨⟨header_fits_of_dataLength_le small, _, whole.symm⟩, small⟩
  · rintro ⟨⟨-, rest, rfl⟩, small⟩
    rw [next_eq_ok_iff.mpr ⟨small, rfl⟩]

/-- What is left behind a frame. -/
theorem next_snd_of_ok {stream : Bytes} {envelope : Envelope}
    (read : (next stream).1 = .ok envelope) :
    (next stream).2 =
      stream.drop (headerSize + envelope.payload.length + envelope.extra.length) := by
  obtain ⟨-, whole⟩ := next_eq_ok_iff.mp (Prod.ext read rfl)
  have taken : envelope.encode.length =
      headerSize + envelope.payload.length + envelope.extra.length := by
    rw [length_encode, Nat.add_assoc]
    rfl
  calc (next stream).2
      = (envelope.encode ++ (next stream).2).drop envelope.encode.length := by
        rw [List.drop_left]
    _ = stream.drop (headerSize + envelope.payload.length + envelope.extra.length) := by
        rw [← whole, taken]

/-- A header that declares too much is refused in front of its data, whether or not the data is
there. -/
theorem next_of_oversized {header : Header} (fits : header.Fits)
    (beyond : sizeLimit < header.dataLength) (data : Bytes) :
    next (header.encode ++ data) = (.error (.oversized header.dataLength), data) := by
  rw [next_header_append fits, if_pos beyond]

/-- Any other failure has used up the stream. -/
theorem next_of_error {stream : Bytes} {fault : Fault} (failed : (next stream).1 = .error fault)
    (within : ∀ (header : Header) (data : Bytes), header.Fits → stream = header.encode ++ data →
      header.dataLength ≤ sizeLimit) : next stream = (.error .endOfStream, []) := by
  rcases Nat.lt_or_ge stream.length headerSize with short | enough
  · exact next_of_length_lt short
  obtain ⟨header, data, fits, rfl⟩ := Header.exists_eq_encode_append enough
  rw [next_header_append fits, if_neg (Nat.not_lt_of_le (within header data fits rfl))] at failed ⊢
  split
  · rfl
  · rename_i present
    rw [if_neg present] at failed
    cases failed

/-- The reader of a stream agrees with the reader of a buffer but for the limit, and its position
is exact. It takes its parts in turn. It reads a frame exactly if the frame is read from the same
octets as a buffer and its data is within the limit, and it leaves what stands behind the frame. A
header that declares more than the limit is refused for that, before its data is looked at, with
all of the data left. Every other failure has used up the stream and says so. -/
theorem next_agrees_with_decode (stream : Bytes) :
    next stream = nextInTurn stream ∧
    (∀ envelope, ((next stream).1 = .ok envelope ↔ decode stream = .ok envelope ∧
        envelope.payload.length + envelope.extra.length ≤ sizeLimit) ∧
      ((next stream).1 = .ok envelope → (next stream).2 =
        stream.drop (headerSize + envelope.payload.length + envelope.extra.length))) ∧
    (∀ (header : Header) (data : Bytes), header.Fits → stream = header.encode ++ data →
      sizeLimit < header.dataLength → ∃ fault, next stream = (.error fault, data) ∧
        fault.toNetworkError = .malformedEnvelope
          s!"envelope declares {header.dataLength} bytes of data, the limit is {sizeLimit}") ∧
    ∀ fault, (next stream).1 = .error fault →
      (∀ (header : Header) (data : Bytes), header.Fits → stream = header.encode ++ data →
        header.dataLength ≤ sizeLimit) →
      next stream = (.error fault, []) ∧
        fault.toNetworkError = .malformedEnvelope "early eof" := by
  refine ⟨next_eq_nextInTurn stream, ?_, ?_, ?_⟩
  · intro envelope
    exact ⟨next_fst_eq_ok_iff, next_snd_of_ok⟩
  · rintro header data fits rfl beyond
    exact ⟨_, next_of_oversized fits beyond data, rfl⟩
  · intro fault failed within
    have ended := next_of_error failed within
    rw [ended] at failed ⊢
    cases failed
    exact ⟨rfl, rfl⟩

/-- Three streams: a header with the greatest lengths there are and three octets behind it, a frame
with an empty payload and an octet behind it, and the same frame without its last octet. The first
is refused with the three octets left, the second is read with the one octet left, and the third
is used up. -/
theorem next_agrees_with_decode_at_borders :
    (∃ fault, next [116, 120, 0, 0, 0, 0, 0, 0, 0, 0, 0, 0, 255, 255, 255, 255, 255, 255, 255, 255,
      1, 2, 3] = (.error fault, [1, 2, 3])) ∧
    next [116, 120, 0, 0, 0, 0, 0, 0, 0, 0, 0, 0, 0, 0, 0, 0, 2, 0, 0, 0, 7, 8, 9] =
      (.ok ⟨⟨[116, 120, 0, 0, 0, 0, 0, 0, 0, 0, 0, 0], rfl⟩, [], [7, 8]⟩, [9]) ∧
    next [116, 120, 0, 0, 0, 0, 0, 0, 0, 0, 0, 0, 0, 0, 0, 0, 2, 0, 0, 0, 7] =
      (.error .endOfStream, []) := by
  obtain ⟨-, -, oversized, -⟩ := next_agrees_with_decode [116, 120, 0, 0, 0, 0, 0, 0, 0, 0, 0, 0,
    255, 255, 255, 255, 255, 255, 255, 255, 1, 2, 3]
  obtain ⟨-, agrees, -, -⟩ := next_agrees_with_decode [116, 120, 0, 0, 0, 0, 0, 0, 0, 0, 0, 0,
    0, 0, 0, 0, 2, 0, 0, 0, 7, 8, 9]
  obtain ⟨-, -, -, ended⟩ := next_agrees_with_decode [116, 120, 0, 0, 0, 0, 0, 0, 0, 0, 0, 0,
    0, 0, 0, 0, 2, 0, 0, 0, 7]
  obtain ⟨fault, refused, -⟩ := oversized
    ⟨⟨[116, 120, 0, 0, 0, 0, 0, 0, 0, 0, 0, 0], rfl⟩, UInt32.size - 1, UInt32.size - 1⟩ [1, 2, 3]
    ⟨by decide, by decide⟩ (by decide) (by decide)
  obtain ⟨same, position⟩ := agrees
    ⟨⟨[116, 120, 0, 0, 0, 0, 0, 0, 0, 0, 0, 0], rfl⟩, [], [7, 8]⟩
  have read := same.mpr ⟨rfl, by decide⟩
  have within := ended .endOfStream rfl (by
    intro header data fits whole
    have found := Header.read?_encode_append fits data
    rw [← whole] at found
    cases found
    decide)
  exact ⟨⟨fault, refused⟩, Prod.ext read (position read), within.1⟩

end SqlLedger.Envelope
