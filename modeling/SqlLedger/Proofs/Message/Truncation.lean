/-
A message that was cut short is seen to be cut short.

The layouts of all requests are put together from steady readers, so whatever a command is, reading
what it carries does not change its mind when more input arrives. That has two sides for a receiver.
What it has read stays read, and what it has refused stays refused and in the same words, unless it
was refused for its end. And a payload of which only a front has arrived is always refused for its
end, wherever it was cut: inside a length or a text, between the elements of a list, inside a
character. It is never taken for another payload, and never for a wrong one, as its octets are right
as far as they go.
-/

import SqlLedger.Proofs.Message.Payload
import SqlLedger.Proofs.Wire.Growth

namespace SqlLedger

open Codec

/-! ### Layouts -/

theorem ItemKind.read_codec : ItemKind.codec.read = word32.read.andThen fun index =>
    if index = 0 then fun rest => .ok (.block, rest)
    else if index = 1 then fun rest => .ok (.transaction, rest)
    else fun _ => .error (.badChoice index) := by
  funext bytes
  unfold ItemKind.codec Reader.andThen
  dsimp only
  cases word32.read bytes with
  | error fault => rfl
  | ok result =>
    dsimp only
    repeat' split
    all_goals rfl

instance : Steady ItemKind.codec.read := by
  rw [ItemKind.read_codec]
  refine .andThen fun index => ?_
  repeat' split
  · exact .done ItemKind.block
  · exact .done ItemKind.transaction
  · exact .refuse (.badChoice index)

instance : Steady NodeAddress.codec.read :=
  inferInstanceAs (Steady (along _ _ (pair text word32)).read)

/-- What a request carries is read steadily, whatever the command. -/
instance (command : Command) : Steady command.fieldsCodec.read := by
  cases command <;>
    simp only [Command.fieldsCodec, addressList, blockQuery, blockDelivery, blockRange,
      announcement, itemQuery, transactionDelivery, versionNotice, transactionQuery, walletQuery,
      unspentQuery, signedTransaction, transferOrder, statementOrder, updateQuery] <;>
    infer_instance

/-! ### Complaints -/

namespace ReadFault

theorem take_message_of_not_isShort {fault : ReadFault} (whole : fault.isShort = false) :
    fault.message.toList.take 2 ≠ ['i', 'o'] := by
  cases fault with
  | endOfInput | shortBlock => cases whole
  | badFlag byte =>
    show ("invalid u8 while decoding bool, expected 0 or 1, found " ++ _ : String).toList.take 2 ≠ _
    rw [String.toList_append, List.take_append_of_le_length (by decide)]
    decide
  | badText fault =>
    show ("string is not valid utf8: " ++ _ : String).toList.take 2 ≠ _
    rw [String.toList_append, List.take_append_of_le_length (by decide)]
    decide
  | badChoice index =>
    show ("invalid value: integer `" ++ _ ++ _ : String).toList.take 2 ≠ _
    rw [String.append_assoc, String.toList_append, List.take_append_of_le_length (by decide)]
    decide

theorem isShort_iff {fault : ReadFault} :
    fault.isShort = true ↔ fault = .endOfInput ∨ fault = .shortBlock := by
  cases fault <;> simp only [isShort, reduceCtorEq, Bool.false_eq_true, or_true, true_or, or_self]

/-- The complaints of the end of the input are told from all others by their wording. -/
theorem isShort_iff_message (fault : ReadFault) :
    fault.isShort = true ↔
      fault.message = "io error: unexpected end of file" ∨ fault.message = "io error: " := by
  constructor
  · intro short
    rcases isShort_iff.mp short with rfl | rfl
    · exact Or.inl rfl
    · exact Or.inr rfl
  · intro early
    cases short : fault.isShort with
    | true => rfl
    | false =>
      have differs := take_message_of_not_isShort short
      rcases early with same | same <;> rw [same] at differs <;> exact absurd (by decide) differs

end ReadFault

namespace Payload

/-- The complaint that the payload of a command cannot be read. -/
def complaint (command : Command) (text : String) : NetworkError :=
  .malformedEnvelope s!"{command.name} payload: {text}"

/-- A complaint that the payload of a command ends too early: there are two. -/
def EndsEarly (command : Command) (error : NetworkError) : Prop :=
  error = complaint command "io error: unexpected end of file" ∨
    error = complaint command "io error: "

theorem complaint_injective {command : Command} {first second : String}
    (same : complaint command first = complaint command second) : first = second := by
  exact (String.append_right_inj _).mp (NetworkError.malformedEnvelope.inj same)

theorem endsEarly_complaint_iff {command : Command} {fault : ReadFault} :
    EndsEarly command (complaint command fault.message) ↔ fault.isShort = true := by
  rw [ReadFault.isShort_iff_message]
  constructor
  · exact Or.imp complaint_injective complaint_injective
  · exact Or.imp (congrArg (complaint command)) (congrArg (complaint command))

theorem decode_eq_error_iff {command : Command} {bytes : Bytes} {error : NetworkError} :
    decode command bytes = .error error ↔
      ∃ fault, command.fieldsCodec.decode bytes = .error fault ∧
        error = complaint command fault.message := by
  unfold decode
  cases command.fieldsCodec.decode bytes with
  | ok fields => exact ⟨nofun, nofun⟩
  | error fault =>
    constructor
    · rintro ⟨⟩
      exact ⟨fault, rfl, rfl⟩
    · rintro ⟨fault, ⟨⟩, rfl⟩
      rfl

/-! ### More input -/

/-- More input changes nothing for a payload that was refused for anything but its end. -/
theorem decode_append_of_error {command : Command} {bytes : Bytes} {error : NetworkError}
    (refused : decode command bytes = .error error) (late : ¬ EndsEarly command error)
    (more : Bytes) : decode command (bytes ++ more) = .error error := by
  obtain ⟨fault, refusedFields, rfl⟩ := decode_eq_error_iff.mp refused
  rw [endsEarly_complaint_iff, Bool.not_eq_true] at late
  exact decode_eq_error_iff.mpr ⟨fault, Codec.decode_append_of_error refusedFields late more, rfl⟩

theorem decode_append_of_ok {command : Command} {bytes : Bytes} {payload : Payload}
    (decoded : decode command bytes = .ok payload) (more : Bytes) :
    decode command (bytes ++ more) = .ok payload := by
  unfold decode at decoded ⊢
  split at decoded
  · rename_i fields decodedFields
    cases decoded
    rw [Codec.decode_append_of_ok decodedFields]
  · cases decoded

/-- A payload that was cut off is refused for its end. -/
theorem exists_endsEarly_of_front {payload : Payload} (fits : payload.Fits) {front : Bytes}
    (isFront : front <+: payload.encode) (proper : front ≠ payload.encode) :
    ∃ error, decode payload.command front = .error error ∧ EndsEarly payload.command error := by
  obtain ⟨fault, refused, short⟩ := exists_short_of_front fits isFront proper
  exact ⟨_, decode_eq_error_iff.mpr ⟨fault, refused, rfl⟩, endsEarly_complaint_iff.mpr short⟩

/-- Reading a payload does not change its mind when more input arrives, and a payload that was cut
short is always seen to be. What was read from some octets is read from them with anything behind,
and so is every refusal, word for word, that does not speak of the end of the input. Every proper
front of the octets of a payload is refused for its end, as long as the lengths in the payload can
be counted. The two complaints of that are no other fault's, so that it is never refused as a text
that is not UTF-8 or as an unknown choice. -/
theorem cut_short_is_seen :
    (∀ (command : Command) (bytes more : Bytes) (payload : Payload),
      decode command bytes = .ok payload → decode command (bytes ++ more) = .ok payload) ∧
    (∀ (command : Command) (bytes more : Bytes) (error : NetworkError),
      decode command bytes = .error error → ¬ EndsEarly command error →
        decode command (bytes ++ more) = .error error) ∧
    (∀ payload : Payload, payload.Fits → ∀ front : Bytes,
      front <+: payload.encode → front ≠ payload.encode →
        ∃ error, decode payload.command front = .error error ∧
          EndsEarly payload.command error) ∧
    ∀ (command : Command) (fault : ReadFault),
      EndsEarly command (complaint command fault.message) ↔
        fault = .endOfInput ∨ fault = .shortBlock := by
  refine ⟨fun _ _ more _ decoded => decode_append_of_ok decoded more,
    fun _ _ more _ refused late => decode_append_of_error refused late more,
    fun _ fits _ => exists_endsEarly_of_front fits, fun command fault => ?_⟩
  rw [endsEarly_complaint_iff, ReadFault.isShort_iff]

/-- An address cut inside a character, and one with a text that is none. -/
theorem cut_short_is_seen_of_two :
    let payload : Payload := ⟨.addNode, ⟨"é", 4000⟩⟩
    let garbled : Bytes := [1, 0, 0, 0, 0, 0, 0, 0, 0xFF]
    payload.Fits ∧ payload.encode.take 9 = [2, 0, 0, 0, 0, 0, 0, 0, 0xC3] ∧
      (∃ error, decode .addNode (payload.encode.take 9) = .error error ∧
        EndsEarly .addNode error) ∧
      (∀ more, decode .addNode (payload.encode ++ more) = .ok payload) ∧
      ∀ more, decode .addNode (garbled ++ more) =
        .error (complaint .addNode (ReadFault.badText (.invalid 1 0)).message) := by
  intro payload garbled
  obtain ⟨accepted, refused, cut, only⟩ := cut_short_is_seen
  have fits : payload.Fits := fits_of_length_encode_lt (by decide)
  have whole : decode .addNode payload.encode = .ok payload := by
    have read := decode_encode_append fits []
    rwa [List.append_nil] at read
  have wrong : decode .addNode garbled =
      .error (complaint .addNode (ReadFault.badText (.invalid 1 0)).message) := by
    refine decode_eq_error_iff.mpr ⟨_, ?_, rfl⟩
    cbv
  refine ⟨fits, by decide, ?_, fun more => accepted _ _ more _ whole, fun more => ?_⟩
  · exact cut payload fits _ (List.take_prefix 9 _) (by decide)
  · exact refused _ _ more _ wrong (by rw [only]; decide)

end Payload

end SqlLedger
