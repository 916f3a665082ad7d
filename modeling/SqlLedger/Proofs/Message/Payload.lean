/-
Payloads and answers are read exactly from their octets.

Every record of the catalog is laid out by composition, so each is lawful by the instance that
follows its definition, and the only facts to supply are that a record and the tuple of its
fields determine each other. From the records the law passes to the two tables of the catalog,
the one for what requests carry and the one for what answers carry, and from the tables to
payloads: a payload is read from a byte string exactly if the byte string begins with its octets.
The command has to be given, since the octets alone do not name it, and several commands share
one layout.
-/

import SqlLedger.Message.Payload
import SqlLedger.Proofs.Wire.Laws

namespace SqlLedger

open Codec

/-! ### Records -/

instance : Lawful NodeAddress.codec :=
  Lawful.along (fun _ => rfl) fun _ => rfl

instance : Solid NodeAddress.codec :=
  Solid.along

/-- A kind is read exactly from the word of its index. -/
instance : Lawful ItemKind.codec where
  read_eq_ok_iff {bytes rest kind} := by
    simp only [ItemKind.codec, true_and]
    constructor
    · intro read
      split at read
      · cases read
      · rename_i index behind readIndex
        obtain ⟨-, rfl⟩ := Lawful.read_eq_ok_iff.mp readIndex
        split at read
        · cases read
          simp only [*]
        · split at read
          · cases read
            simp only [*]
          · cases read
    · rintro rfl
      cases kind
      · simp only [read_write_append word32 trivial, if_true]
      · simp only [read_write_append word32 trivial]
        rfl
  fits_of_length_lt _ := trivial

section Requests

instance : Lawful addressList := Lawful.along (fun _ => rfl) fun _ => rfl

instance : Lawful blockQuery := Lawful.along (fun _ => rfl) fun _ => rfl

instance : Lawful blockDelivery := Lawful.along (fun _ => rfl) fun _ => rfl

instance : Lawful blockRange := Lawful.along (fun _ => rfl) fun _ => rfl

instance : Lawful announcement := Lawful.along (fun _ => rfl) fun _ => rfl

instance : Lawful itemQuery := Lawful.along (fun _ => rfl) fun _ => rfl

instance : Lawful transactionDelivery := Lawful.along (fun _ => rfl) fun _ => rfl

instance : Lawful versionNotice := Lawful.along (fun _ => rfl) fun _ => rfl

instance : Lawful transactionQuery := Lawful.along (fun _ => rfl) fun _ => rfl

instance : Lawful updateQuery := Lawful.along (fun _ => rfl) fun _ => rfl

instance : Lawful walletQuery := Lawful.along (fun _ => rfl) fun _ => rfl

instance : Lawful unspentQuery := Lawful.along (fun _ => rfl) fun _ => rfl

instance : Lawful signedTransaction := Lawful.along (fun _ => rfl) fun _ => rfl

instance : Lawful transferOrder := Lawful.along (fun _ => rfl) fun _ => rfl

instance : Lawful statementOrder := Lawful.along (fun _ => rfl) fun _ => rfl

end Requests

section Replies

instance : Lawful firstBlocks := Lawful.along (fun _ => rfl) fun _ => rfl

instance : Lawful consensusData := Lawful.along (fun _ => rfl) fun _ => rfl

instance : Lawful balance := Lawful.along (fun _ => rfl) fun _ => rfl

instance : Lawful unspentOutput := Lawful.along (fun _ => rfl) fun _ => rfl

instance : Solid unspentOutput := Solid.along

instance : Lawful unspentOutputs := Lawful.along (fun _ => rfl) fun _ => rfl

instance : Lawful historyEntry := Lawful.along (fun _ => rfl) fun _ => rfl

instance : Solid historyEntry := Solid.along

instance : Lawful preparedTransaction := Lawful.along (fun _ => rfl) fun _ => rfl

instance : Lawful nodeState := Lawful.along (fun _ => rfl) fun _ => rfl

instance : Lawful updates := Lawful.along (fun _ => rfl) fun _ => rfl

end Replies

/-! ### The two tables of the catalog -/

/-- What a request carries is read exactly from its octets, whatever the command. -/
instance (command : Command) : Lawful command.fieldsCodec := by
  cases command <;> simp only [Command.fieldsCodec] <;> infer_instance

/-- What an answer carries is read exactly from its octets, whatever the command. -/
instance (command : Command) : Lawful command.replyCodec := by
  cases command <;> simp only [Command.replyCodec] <;> infer_instance

namespace Payload

/-! ### Payloads -/

/-- A payload whose octets can be counted has lengths that can be counted. -/
theorem fits_of_length_encode_lt {payload : Payload}
    (short : payload.encode.length < Bytes.wordCount 8) : payload.Fits :=
  fits_of_length_write_lt payload.command.fieldsCodec short

/-- A payload is read back from its octets, whatever follows them. -/
theorem decode_encode_append {payload : Payload} (fits : payload.Fits) (rest : Bytes) :
    decode payload.command (payload.encode ++ rest) = .ok payload := by
  unfold decode encode
  rw [(decode_eq_ok_iff_opens _ _ payload.fields).mpr ⟨fits, List.prefix_append _ rest⟩]

/-- A payload is read from a byte string exactly if it carries the given command and the byte
string begins with its octets. So every command has its round trip, no payload has a second
encoding, and an input that begins with no encoding of the command's shape is refused. -/
theorem decode_eq_ok_iff (command : Command) (bytes : Bytes) (payload : Payload) :
    decode command bytes = .ok payload ↔
      payload.command = command ∧ payload.Fits ∧ payload.encode <+: bytes := by
  constructor
  · intro decoded
    unfold decode at decoded
    split at decoded
    · rename_i fields read
      cases decoded
      exact ⟨rfl, (decode_eq_ok_iff_opens _ bytes fields).mp read⟩
    · cases decoded
  · rintro ⟨rfl, fits, rest, rfl⟩
    exact decode_encode_append fits rest

end Payload

end SqlLedger
