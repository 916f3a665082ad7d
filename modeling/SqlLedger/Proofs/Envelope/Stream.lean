/-
Reading frame after frame from a stream.

A reader calls `Envelope.next` on what the call before left. `Reads` is such a run of calls that
succeed, from the stream at its start to what is left at its end, and all that is said of runs
comes from what one call does: it takes the octets of one frame off the front of the stream and
nothing else. By induction on the run, the frames read and the rest are together the stream, so
nothing is lost, read twice or read out of line, and since a frame has at least the octets of its
header, a stream bounds the length of its runs. By induction on the frames, frames within the
limit are read back one by one and what stands behind them is left. Nothing is asked of the
octets inside the frames, so data that looks like a header is no exception.

`returned` collects the frames that `Envelope.readAll` gives before its first failure. It is the
longest run of its stream: the call after it fails.
-/

import SqlLedger.Proofs.Envelope.Framing

namespace SqlLedger.Envelope

/-- Calls that succeed one after the other: the stream at the start, the frames read, and what is
left of the stream. -/
inductive Reads : Bytes → List Envelope → Bytes → Prop
  /-- No call leaves the stream as it is. -/
  | none (stream : Bytes) : Reads stream [] stream
  /-- A call that succeeds, and then calls on what it leaves. -/
  | call {stream behind rest : Bytes} {envelope : Envelope} {envelopes : List Envelope} :
      next stream = (.ok envelope, behind) → Reads behind envelopes rest →
        Reads stream (envelope :: envelopes) rest

/-! ### What a run takes -/

/-- A stream is the frames that a run reads, followed by what the run leaves. -/
theorem flatMap_encode_append_of_reads {stream rest : Bytes} {envelopes : List Envelope}
    (reads : Reads stream envelopes rest) : envelopes.flatMap encode ++ rest = stream := by
  induction reads with
  | none stream => rfl
  | call first _ inductionHypothesis =>
    obtain ⟨-, rfl⟩ := next_eq_ok_iff.mp first
    rw [List.flatMap_cons, List.append_assoc, inductionHypothesis]

/-- Each call of a run takes at least a header. -/
theorem headerSize_mul_length_le_of_reads {stream rest : Bytes} {envelopes : List Envelope}
    (reads : Reads stream envelopes rest) :
    headerSize * envelopes.length + rest.length ≤ stream.length := by
  induction reads with
  | none stream => exact Nat.le_of_eq (Nat.zero_add stream.length)
  | call first _ inductionHypothesis =>
    have taken := headerSize_add_length_le_of_next first
    rw [List.length_cons, Nat.mul_succ]
    omega

/-- A stream and the number of calls determine a run. -/
theorem Reads.unique {stream rest last : Bytes} {envelopes others : List Envelope}
    (reads : Reads stream envelopes rest) (again : Reads stream others last)
    (count : others.length = envelopes.length) : others = envelopes ∧ last = rest := by
  induction reads generalizing others with
  | none stream =>
    cases again with
    | none => exact ⟨rfl, rfl⟩
    | call => cases count
  | call first _ inductionHypothesis =>
    cases again with
    | none => cases count
    | call second behind =>
      rw [first] at second
      cases second
      obtain ⟨rfl, rfl⟩ := inductionHypothesis behind (Nat.succ.inj count)
      exact ⟨rfl, rfl⟩

/-! ### Streams of frames -/

/-- Frames within the limit are read one by one, and what stands behind them is left. -/
theorem reads_flatMap_encode_append {envelopes : List Envelope} (tail : Bytes)
    (small : ∀ envelope ∈ envelopes, envelope.header.dataLength ≤ sizeLimit) :
    Reads (envelopes.flatMap encode ++ tail) envelopes tail := by
  induction envelopes with
  | nil => exact Reads.none tail
  | cons first others inductionHypothesis =>
    obtain ⟨smallFirst, smallOthers⟩ := List.forall_mem_cons.mp small
    rw [List.flatMap_cons, List.append_assoc]
    exact Reads.call (next_eq_ok_iff.mpr ⟨smallFirst, rfl⟩) (inductionHypothesis smallOthers)

/-! ### The run to the first failure -/

/-- The frames read from a stream before the first failure. -/
def returned (stream : Bytes) : List Envelope :=
  (readAll stream).filterMap fun reading => reading.1.toOption

/-- Nothing is read from a stream at its end. -/
theorem next_nil : next [] = (.error .endOfStream, []) := rfl

/-- The frames before the first failure are a run, and the call after it fails. -/
theorem reads_returned (stream : Bytes) :
    ∃ rest fault left, Reads stream (returned stream) rest ∧ next rest = (.error fault, left) := by
  unfold returned
  fun_induction readAll stream with
  | case1 stream envelope read =>
    exact ⟨[], .endOfStream, [], Reads.call read (Reads.none []), next_nil⟩
  | case2 stream envelope first behind read inductionHypothesis =>
    obtain ⟨rest, fault, left, reads, failed⟩ := inductionHypothesis
    exact ⟨rest, fault, left, Reads.call read reads, failed⟩
  | case3 stream fault left read =>
    exact ⟨stream, fault, left, Reads.none stream, read⟩

/-- Reading frames off a stream neither loses, duplicates nor misaligns anything. From frames
within the limit followed by a tail, as many calls read exactly these frames in order and leave
exactly the tail. From any stream at all, the frames read and the rest are the stream and every
call takes at least a header, so that runs are bounded; and the frames read before the first
failure are the start of the stream, by a run after which a call does fail. -/
theorem reads_frames_exactly :
    (∀ (envelopes : List Envelope) (tail : Bytes),
      (∀ envelope ∈ envelopes,
        envelope.payload.length + envelope.extra.length ≤ sizeLimit) →
      ∀ (others : List Envelope) (rest : Bytes), others.length = envelopes.length →
        (Reads (envelopes.flatMap encode ++ tail) others rest ↔
          others = envelopes ∧ rest = tail)) ∧
    (∀ (stream rest : Bytes) (envelopes : List Envelope), Reads stream envelopes rest →
      envelopes.flatMap encode ++ rest = stream ∧
        headerSize * envelopes.length + rest.length ≤ stream.length) ∧
    ∀ stream : Bytes, (returned stream).flatMap encode <+: stream ∧
      ∃ rest fault left,
        Reads stream (returned stream) rest ∧ next rest = (.error fault, left) := by
  refine ⟨?_, ?_, ?_⟩
  · intro envelopes tail small others rest count
    have reads := reads_flatMap_encode_append tail small
    constructor
    · intro again
      exact reads.unique again count
    · rintro ⟨rfl, rfl⟩
      exact reads
  · intro stream rest envelopes reads
    exact ⟨flatMap_encode_append_of_reads reads, headerSize_mul_length_le_of_reads reads⟩
  · intro stream
    obtain ⟨rest, fault, left, reads, failed⟩ := reads_returned stream
    exact ⟨⟨rest, flatMap_encode_append_of_reads reads⟩, rest, fault, left, reads, failed⟩

/-- A frame whose payload and extra segment are themselves the octets of a frame, then that frame,
then the first octets of it once more: the two frames are read, the last octets are left, and
nothing inside the first is taken for a frame. -/
theorem reads_nested_frames :
    let inner : Envelope := ⟨⟨[116, 120, 0, 0, 0, 0, 0, 0, 0, 0, 0, 0], rfl⟩, [7], []⟩
    let outer : Envelope := ⟨inner.name, inner.encode, inner.encode⟩
    let stream := [outer, inner].flatMap encode ++ inner.encode.take 5
    Reads stream [outer, inner] (inner.encode.take 5) ∧
      headerSize * 2 + 5 ≤ stream.length := by
  intro inner outer stream
  have small : ∀ envelope ∈ [outer, inner],
      envelope.payload.length + envelope.extra.length ≤ sizeLimit := by
    decide
  have reads : Reads stream [outer, inner] (inner.encode.take 5) :=
    (reads_frames_exactly.1 [outer, inner] (inner.encode.take 5) small _ _ rfl).mpr ⟨rfl, rfl⟩
  exact ⟨reads, (reads_frames_exactly.2.1 _ _ _ reads).2⟩

end SqlLedger.Envelope
