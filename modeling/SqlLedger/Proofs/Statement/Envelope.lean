/-
The values of an envelope are not malleable.

Whoever signs a statement signs octets, but what stands in the comment is text. If two texts were
read as the same octets, a comment could be changed without any trace in the envelope. So the
envelope that a comment spells is said here with no mention of reading: a marker that has a value
has it as the base64 of its part, and the parts of all others are empty (`SpelledBy`). As there is
one text for each byte string, and that of a part is empty only if the part is, a comment spells one
envelope at most, and the envelope in turn tells all three values (`SpelledBy.firstValue_iff`).
Reading gives the envelope that the comment spells, and a fault if there is none
(`read_eq_ok_iff_spelledBy`).
-/

import Mathlib
import SqlLedger.Proofs.Statement.Marker
import SqlLedger.Statement.Basic

namespace SqlLedger

namespace CommentEnvelope

/-! ### The envelope that a comment spells -/

/-- A comment spells an envelope: the value of each marker is the base64 of its part, and a marker
without a value leaves its part empty. -/
def SpelledBy (envelope : CommentEnvelope) (comment : String) : Prop :=
  ∀ field : CommentField,
    (∀ value, FirstValue field.marker.toList comment.toList value →
      value = (Base64.text (envelope.part field)).toList) ∧
    ((∀ value, ¬ FirstValue field.marker.toList comment.toList value) →
      envelope.part field = [])

/-- The comments of a statement spell what the first one does, and the empty envelope if there is
none. -/
def SpelledByFirst (envelope : CommentEnvelope) : List String → Prop
  | [] => envelope = {}
  | comment :: _ => envelope.SpelledBy comment

variable {envelope : CommentEnvelope} {comment : String} {field : CommentField}
  {marker chars value : List Char}

theorem FirstValue.ne_nil (first : FirstValue marker chars value) : value ≠ [] := by
  obtain ⟨position, ⟨before, after, same, length, nonempty, free⟩, noneEarlier⟩ := first
  exact nonempty

theorem forall_not_firstValue_iff :
    (∀ value, ¬ FirstValue marker chars value) ↔ locate? marker chars = none := by
  simp only [Option.eq_none_iff_forall_ne_some, ne_eq, locate?_eq_some_iff]

/-- The values that count are told by the envelope: they are the base64 of the parts that are not
empty. -/
theorem SpelledBy.firstValue_iff (spelled : envelope.SpelledBy comment) (value : List Char) :
    FirstValue field.marker.toList comment.toList value ↔
      value = (Base64.text (envelope.part field)).toList ∧ value ≠ [] := by
  obtain ⟨present, absent⟩ := spelled field
  constructor
  · exact fun first => ⟨present value first, first.ne_nil⟩
  · rintro ⟨rfl, nonempty⟩
    cases found : locate? field.marker.toList comment.toList with
    | none =>
      have empty := absent (forall_not_firstValue_iff.mpr found)
      exact absurd ((Base64.toList_text_eq_nil_iff _).mpr empty) nonempty
    | some value =>
      have first := locate?_eq_some_iff.mp found
      exact present value first ▸ first

/-! ### Reading -/

/-- The envelope with given parts. -/
def ofParts (octets : CommentField → Bytes) : CommentEnvelope where
  publicKey := octets .publicKey
  signature := octets .signature
  transaction := octets .transaction

theorem part_ofParts (octets : CommentField → Bytes) (field : CommentField) :
    (ofParts octets).part field = octets field := by
  cases field <;> rfl

/-- A part is read from the value that counts, or it is empty. -/
theorem readField_eq_ok_iff {octets : Bytes} :
    readField comment field = .ok octets ↔
      (∀ value, FirstValue field.marker.toList comment.toList value →
        value = (Base64.text octets).toList) ∧
      ((∀ value, ¬ FirstValue field.marker.toList comment.toList value) → octets = []) := by
  rw [forall_not_firstValue_iff]
  simp only [← locate?_eq_some_iff]
  cases found : locate? field.marker.toList comment.toList with
  | none =>
    rw [readField_of_locate?_eq_none found]
    constructor
    · rintro ⟨⟩
      exact ⟨nofun, fun _ => rfl⟩
    · exact fun ⟨_, empty⟩ => congrArg Except.ok (empty rfl).symm
  | some value =>
    rw [readField_of_locate? found, Result.mapError_eq_ok_iff, Base64.decode_encodeChars_eq_ok_iff]
    constructor
    · exact fun same => ⟨fun _ located => Option.some.inj located ▸ same, nofun⟩
    · exact fun ⟨same, _⟩ => same value rfl

theorem read_eq_ok_iff :
    read comment = .ok envelope ↔ ∀ field, readField comment field = .ok (envelope.part field) := by
  constructor
  · intro whole
    rw [read] at whole
    obtain ⟨signature, readSignature, whole⟩ := Result.bind_eq_ok_iff.mp whole
    obtain ⟨transaction, readTransaction, whole⟩ := Result.bind_eq_ok_iff.mp whole
    obtain ⟨publicKey, readPublicKey, whole⟩ := Result.bind_eq_ok_iff.mp whole
    cases whole
    intro field
    cases field with
    | signature => exact readSignature
    | transaction => exact readTransaction
    | publicKey => exact readPublicKey
  · exact read_of_parts

theorem read_eq_ok_iff_spelledBy : read comment = .ok envelope ↔ envelope.SpelledBy comment := by
  simp only [read_eq_ok_iff, readField_eq_ok_iff, SpelledBy]

theorem readEnvelope_eq_ok_iff (statement : Statement) :
    statement.readEnvelope = .ok envelope ↔
      envelope.SpelledByFirst statement.outline.comments := by
  rw [Statement.readEnvelope]
  cases statement.outline.comments with
  | nil => rw [ofComments, Except.ok.injEq, SpelledByFirst, eq_comm]
  | cons comment further => exact read_eq_ok_iff_spelledBy

/-- There is an envelope exactly if the value of each marker that has one is the base64 of some
octets. -/
theorem exists_read_eq_ok_iff :
    (∃ envelope, read comment = .ok envelope) ↔
      ∀ (field : CommentField) (value : List Char),
        FirstValue field.marker.toList comment.toList value →
          ∃ octets, value = (Base64.text octets).toList := by
  constructor
  · rintro ⟨envelope, whole⟩ field value first
    exact ⟨envelope.part field, (read_eq_ok_iff_spelledBy.mp whole field).1 value first⟩
  · intro canonical
    have parts : ∀ field, ∃ octets, readField comment field = .ok octets := by
      intro field
      cases found : locate? field.marker.toList comment.toList with
      | none => exact ⟨[], readField_of_locate?_eq_none found⟩
      | some value =>
        obtain ⟨octets, same⟩ := canonical field value (locate?_eq_some_iff.mp found)
        refine ⟨octets, ?_⟩
        rw [readField_of_locate? found, Result.mapError_eq_ok_iff]
        exact (Base64.decode_encodeChars_eq_ok_iff value octets).mpr same
    -- No part depends on another, so the octets of all three can be chosen at once.
    obtain ⟨octets, readParts⟩ := Classical.skolem.mp parts
    refine ⟨ofParts octets, read_of_parts fun field => ?_⟩
    rw [part_ofParts]
    exact readParts field

/-- No value can be changed unnoticed. A text is decoded to some octets exactly if it is their
base64, so that no two texts are decoded to the same octets, and the texts that are decoded at all
are the symbols of their octets, padded and without bits to spare. An envelope is read from a
statement exactly if its first comment spells it: the values of the markers are the base64 of the
parts, and a marker without a value leaves its part empty. This fails only where a value is the
base64 of nothing, and two comments that are read as the same envelope have the same values. -/
theorem values_not_malleable :
    (∀ (value : List Char) (octets : Bytes),
      Base64.decode (Utf8.encodeChars value) = .ok octets ↔
        value = (Base64.text octets).toList) ∧
    (∀ (first second : List Char) (octets : Bytes),
      Base64.decode (Utf8.encodeChars first) = .ok octets →
        Base64.decode (Utf8.encodeChars second) = .ok octets → first = second) ∧
    (∀ value : List Char,
      (∃ octets, Base64.decode (Utf8.encodeChars value) = .ok octets) ↔
        Base64.IsCanonical (Utf8.encodeChars value)) ∧
    (∀ (statement : Statement) (envelope : CommentEnvelope),
      statement.readEnvelope = .ok envelope ↔
        envelope.SpelledByFirst statement.outline.comments) ∧
    (∀ comment : String,
      (∃ envelope, read comment = .ok envelope) ↔
        ∀ (field : CommentField) (value : List Char),
          FirstValue field.marker.toList comment.toList value →
            ∃ octets, value = (Base64.text octets).toList) ∧
    ∀ (comment other : String) (envelope : CommentEnvelope),
      read comment = .ok envelope → read other = .ok envelope →
        ∀ (field : CommentField) (value : List Char),
          FirstValue field.marker.toList comment.toList value ↔
            FirstValue field.marker.toList other.toList value := by
  refine ⟨Base64.decode_encodeChars_eq_ok_iff, ?_, ?_,
    fun statement _ => readEnvelope_eq_ok_iff statement,
    fun _ => exists_read_eq_ok_iff, ?_⟩
  · intro first second octets readFirst readSecond
    rw [Base64.decode_encodeChars_eq_ok_iff] at readFirst readSecond
    exact readFirst.trans readSecond.symm
  · exact fun value => (Base64.isCanonical_iff_exists_decode _).symm
  · intro comment other envelope readComment readOther field value
    rw [read_eq_ok_iff_spelledBy] at readComment readOther
    rw [readComment.firstValue_iff, readOther.firstValue_iff]

/-- Stray bits and missing padding rule a value out, so that the text of an octet cannot be changed;
what stands around it can, and an envelope with a changed text is none. -/
theorem values_not_malleable_of_two :
    let plain := "DATA:QQ==;"
    let wordy := "PUBKEY:;SIGN DATA:QQ==; DATA:Qg==;"
    Base64.decode (Utf8.encodeChars "QQ==".toList) = .ok [65] ∧
      Base64.decode (Utf8.encodeChars "QR==".toList) ≠ .ok [65] ∧
      Base64.decode (Utf8.encodeChars "QQ".toList) ≠ .ok [65] ∧
      read plain = .ok { transaction := [65] } ∧
      FirstValue CommentField.transaction.marker.toList wordy.toList "QQ==".toList ∧
      ¬ ∃ envelope, read "SIGN:QQ==;PUBKEY:QR==;" = .ok envelope := by
  intro plain wordy
  obtain ⟨decoded, same, -, -, spelled, unchanged⟩ := values_not_malleable
  have written : Base64.decode (Utf8.encodeChars "QQ==".toList) = .ok [65] := by
    rw [decoded]
    decide
  have readPlain : read plain = .ok { transaction := [65] } := by
    cbv
  have readWordy : read wordy = .ok { transaction := [65] } := by
    cbv
  refine ⟨written, fun strayBits => ?_, fun unpadded => ?_, readPlain, ?_, ?_⟩
  · exact absurd (same _ _ _ written strayBits) (by decide)
  · exact absurd (same _ _ _ written unpadded) (by decide)
  · rw [← unchanged plain wordy _ readPlain readWordy, ← locate?_eq_some_iff]
    decide
  · rw [spelled]
    intro canonical
    have first : FirstValue CommentField.publicKey.marker.toList
        "SIGN:QQ==;PUBKEY:QR==;".toList "QR==".toList := by
      rw [← locate?_eq_some_iff]
      decide
    obtain ⟨octets, text⟩ := canonical .publicKey _ first
    have refused : Base64.decode (Utf8.encodeChars "QR==".toList) =
        .error (.invalidLastSymbol 82 1) := by
      cbv
    rw [← decoded, refused] at text
    cases text

end CommentEnvelope

end SqlLedger
