/-
A fault of an envelope blames the right value.

The parts of an envelope are read in a fixed order, and the first that cannot be decoded ends the
reading. So the part that a fault names is told without the reading: the value that counts for it is
not canonical base64, and the values of all parts that come before it in the order are
(`Fault.Blames`). Where the parts stand in the comment plays no role in this. The cause that goes
with it is what the decoder says of that value, and it is true of the octets of the value, so the
offsets in it count octets also where characters take several.
-/

import SqlLedger.Proofs.Base64.Fault
import SqlLedger.Proofs.Statement.Marker

namespace SqlLedger

/-- The place of a part in the order in which the parts are read. -/
def CommentField.rank : CommentField → Nat
  | signature => 0
  | transaction => 1
  | publicKey => 2

namespace CommentEnvelope

/-- A fault blames a value of a comment: the value counts for the part that the fault names and is
not canonical, and what counts for the parts before that one is. -/
structure Fault.Blames (fault : Fault) (comment : String) (value : List Char) : Prop where
  located : FirstValue fault.field.marker.toList comment.toList value
  spoilt : ¬ Base64.IsCanonical (Utf8.encodeChars value)
  first : ∀ earlier : CommentField, earlier.rank < fault.field.rank →
    ∀ other, FirstValue earlier.marker.toList comment.toList other →
      Base64.IsCanonical (Utf8.encodeChars other)

variable {comment : String} {field : CommentField} {fault : Fault}

/-! ### One part -/

/-- A part cannot be read if the value that counts for it cannot be decoded. -/
theorem readField_eq_error_iff :
    readField comment field = .error fault ↔
      fault.field = field ∧ ∃ value, FirstValue field.marker.toList comment.toList value ∧
        Base64.decode (Utf8.encodeChars value) = .error fault.cause := by
  simp only [← locate?_eq_some_iff]
  cases found : locate? field.marker.toList comment.toList with
  | none =>
    rw [readField_of_locate?_eq_none found]
    exact ⟨nofun, fun ⟨_, _, located, _⟩ => nomatch located⟩
  | some value =>
    rw [readField_of_locate? found, Result.mapError_eq_error_iff]
    constructor
    · rintro ⟨cause, refused, rfl⟩
      exact ⟨rfl, value, rfl, refused⟩
    · rintro ⟨rfl, _, ⟨⟩, refused⟩
      exact ⟨fault.cause, refused, rfl⟩

/-- A part can be read if the value that counts for it, if there is one, is canonical. -/
theorem exists_readField_eq_ok_iff :
    (∃ octets, readField comment field = .ok octets) ↔
      ∀ value, FirstValue field.marker.toList comment.toList value →
        Base64.IsCanonical (Utf8.encodeChars value) := by
  simp only [← locate?_eq_some_iff, Base64.isCanonical_iff_exists_decode]
  cases found : locate? field.marker.toList comment.toList with
  | none => exact ⟨fun _ => nofun, fun _ => ⟨[], readField_of_locate?_eq_none found⟩⟩
  | some value =>
    simp only [readField_of_locate? found, Result.mapError_eq_ok_iff, Option.some.injEq]
    constructor
    · rintro decoded _ rfl
      exact decoded
    · exact fun decoded => decoded value rfl

/-! ### All parts -/

/-- The first part in the order that cannot be read is the one that is blamed. -/
theorem read_eq_error_iff :
    read comment = .error fault ↔
      readField comment fault.field = .error fault ∧
        ∀ earlier : CommentField, earlier.rank < fault.field.rank →
          ∃ octets, readField comment earlier = .ok octets := by
  constructor
  · intro failed
    rw [read] at failed
    rcases Result.bind_eq_error_iff.mp failed with refused | ⟨signature, readSignature, failed⟩
    · obtain ⟨named, -⟩ := readField_eq_error_iff.mp refused
      rw [named]
      exact ⟨refused, fun earlier before => absurd before (Nat.not_lt_zero _)⟩
    rcases Result.bind_eq_error_iff.mp failed with refused | ⟨transaction, readTransaction, failed⟩
    · obtain ⟨named, -⟩ := readField_eq_error_iff.mp refused
      rw [named]
      refine ⟨refused, fun earlier before => ?_⟩
      cases earlier with
      | signature => exact ⟨signature, readSignature⟩
      | transaction | publicKey => exact absurd before (by decide)
    rcases Result.bind_eq_error_iff.mp failed with refused | ⟨publicKey, readPublicKey, failed⟩
    · obtain ⟨named, -⟩ := readField_eq_error_iff.mp refused
      rw [named]
      refine ⟨refused, fun earlier before => ?_⟩
      cases earlier with
      | signature => exact ⟨signature, readSignature⟩
      | transaction => exact ⟨transaction, readTransaction⟩
      | publicKey => exact absurd before (by decide)
    · cases failed
  · rintro ⟨refused, earlierRead⟩
    rw [read]
    obtain ⟨field, cause⟩ := fault
    cases field with
    | signature => exact Result.bind_eq_error_iff.mpr (Or.inl refused)
    | transaction =>
      obtain ⟨signature, readSignature⟩ := earlierRead .signature Nat.zero_lt_one
      refine Result.bind_eq_error_iff.mpr (Or.inr ⟨signature, readSignature, ?_⟩)
      exact Result.bind_eq_error_iff.mpr (Or.inl refused)
    | publicKey =>
      obtain ⟨signature, readSignature⟩ := earlierRead .signature Nat.zero_lt_two
      obtain ⟨transaction, readTransaction⟩ := earlierRead .transaction Nat.one_lt_two
      refine Result.bind_eq_error_iff.mpr (Or.inr ⟨signature, readSignature, ?_⟩)
      refine Result.bind_eq_error_iff.mpr (Or.inr ⟨transaction, readTransaction, ?_⟩)
      exact Result.bind_eq_error_iff.mpr (Or.inl refused)

theorem read_eq_error_iff_blames :
    read comment = .error fault ↔
      ∃ value, fault.Blames comment value ∧
        Base64.decode (Utf8.encodeChars value) = .error fault.cause := by
  simp only [read_eq_error_iff, readField_eq_error_iff, exists_readField_eq_ok_iff, true_and]
  constructor
  · rintro ⟨⟨value, located, refused⟩, first⟩
    exact ⟨value, ⟨located, (Base64.explains_of_decode_eq_error refused).1, first⟩, refused⟩
  · rintro ⟨value, blames, refused⟩
    exact ⟨⟨value, blames.located, refused⟩, blames.first⟩

/-- Reading the envelope of a statement fails with a fault exactly if the fault blames a value of
the first comment and gives the cause for which that value is not decoded. The blamed value is the
one that counts for the part that is named, it is not canonical, and what counts for the parts
before that one, signature, transaction and public key in this order, is. The cause is true of the
octets of the value: an octet that is called invalid stands at its offset and is not in the
alphabet, a last symbol that is called invalid stands there with nothing but padding behind it, and
one symbol is left over only if the length says so. -/
theorem faults_blame_first_spoilt_value (statement : Statement) (fault : Fault) :
    statement.readEnvelope = .error fault ↔
      ∃ comment further value, statement.outline.comments = comment :: further ∧
        fault.Blames comment value ∧
        Base64.decode (Utf8.encodeChars value) = .error fault.cause ∧
        fault.cause.Explains (Utf8.encodeChars value) := by
  rw [Statement.readEnvelope]
  cases comments : statement.outline.comments with
  | nil =>
    rw [ofComments]
    constructor
    · intro failed
      cases failed
    · rintro ⟨_, _, _, same, -⟩
      cases same
  | cons comment further =>
    rw [ofComments, read_eq_error_iff_blames]
    constructor
    · rintro ⟨value, blames, refused⟩
      exact ⟨comment, further, value, rfl, blames, refused,
        (Base64.explains_of_decode_eq_error refused).2⟩
    · rintro ⟨_, _, value, ⟨⟩, blames, refused, -⟩
      exact ⟨value, blames, refused⟩

/-- The public key comes first in the comment, but the transaction is read before it; the last octet
of its three characters is the fifth. -/
example : read "PUBKEY:QR==;DATA:Aéé;SIGN:QQ==;" = .error ⟨.transaction, .invalidByte 169 4⟩ := by
  cbv

end CommentEnvelope

end SqlLedger
