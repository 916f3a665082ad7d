/-
Names are padded and stripped without loss, up to the zeros at their end.

A name may hold zeros itself, and those at its end cannot be told from the padding behind it. So a
field determines the name without these zeros (`withoutPadding`) and nothing more. This is because
octets and characters are stripped alike: no character but zero is written with the octet zero, so
the octets of a stripped name do not end in one, and all zeros behind them are dropped, those of the
name with those of the field (`dropPadding_encode_append`). What is left is the octets of a text, in
which lenient reading has nothing to replace.

In the other direction a field that is not all zeros has stripped octets. If they are those of a
text, the text is a name that fits, and putting it into a field adds exactly the zeros that were
stripped, since all fields have one width.
-/

import SqlLedger.Proofs.Envelope.Dispatch

namespace SqlLedger

/-! ### Zeros at the end of a text -/

/-- Octets of characters end in zero only if the characters do. -/
theorem Utf8.getLast?_encodeChars_ne {chars : List Char} (solid : chars.getLast? ≠ some '\x00') :
    (encodeChars chars).getLast? ≠ some 0 := by
  rcases chars.eq_nil_or_concat' with rfl | ⟨front, char, rfl⟩
  · exact nofun
  · have nonzero : char ≠ '\x00' := by
      rintro rfl
      exact solid List.getLast?_concat
    have octets : encodeChars [char] = String.utf8EncodeChar char := List.append_nil _
    have taken : String.utf8EncodeChar char ≠ [] := by
      obtain ⟨first, following, written, -⟩ := step_of_utf8EncodeChar char []
      rw [written]
      exact List.cons_ne_nil _ _
    rw [encodeChars_append, octets, List.getLast?_append_of_ne_nil _ taken]
    exact fun last => zero_notMem_utf8EncodeChar nonzero (List.mem_of_getLast? last)

namespace NameField

/-- A name without the zeros at its end. -/
def withoutPadding (name : String) : String :=
  String.ofList (name.toList.rdropWhile (· == '\x00'))

/-- A name consists of what is left of it and of zeros. -/
theorem exists_toList_eq_append (name : String) :
    ∃ count, name.toList = (withoutPadding name).toList ++ List.replicate count '\x00' := by
  obtain ⟨count, same⟩ := exists_rdropWhile_append_replicate '\x00' name.toList
  exact ⟨count, by rw [withoutPadding, String.toList_ofList, same]⟩

theorem getLast?_withoutPadding_ne (name : String) :
    (withoutPadding name).toList.getLast? ≠ some '\x00' := by
  intro last
  rw [withoutPadding, String.toList_ofList] at last
  have taken : name.toList.rdropWhile (· == '\x00') ≠ [] := by
    intro none
    rw [none] at last
    cases last
  rw [List.getLast?_eq_getLast_of_ne_nil taken] at last
  exact List.rdropWhile_last_not _ _ taken (beq_iff_eq.mpr (Option.some.inj last))

/-- Nothing is stripped from a name exactly if it does not end in zero. -/
theorem withoutPadding_eq_iff (name : String) :
    withoutPadding name = name ↔ name.toList.getLast? ≠ some '\x00' := by
  constructor
  · intro same
    have solid := getLast?_withoutPadding_ne name
    rwa [same] at solid
  · intro solid
    obtain ⟨count, same⟩ := exists_toList_eq_append name
    cases count with
    | zero => exact String.toList_inj.mp (same.trans (List.append_nil _)).symm
    | succ count =>
      rw [List.replicate_succ', ← List.append_assoc] at same
      exact absurd (same ▸ List.getLast?_concat) solid

/-! ### Fields of names -/

variable {name : String} {field : NameField}

/-- The padded octets of a name are stripped to those of the stripped name. -/
theorem dropPadding_encode_append (name : String) (count : Nat) :
    dropPadding (Utf8.encode name ++ List.replicate count 0) =
      Utf8.encode (withoutPadding name) := by
  obtain ⟨zeros, same⟩ := exists_toList_eq_append name
  have solid := Utf8.getLast?_encodeChars_ne (getLast?_withoutPadding_ne name)
  rw [Utf8.encode, same, Utf8.encodeChars_append, Utf8.encodeChars_replicate_zero,
    List.append_assoc, List.replicate_append_replicate, dropPadding_append_replicate _ solid,
    Utf8.encode]

/-- The field of a name is its octets with zeros behind, if there is room for them. -/
theorem ofName?_eq_some_iff :
    ofName? name = some field ↔
      (1 ≤ (Utf8.encode name).length ∧ (Utf8.encode name).length ≤ width) ∧
        ∃ count, field.octets = Utf8.encode name ++ List.replicate count 0 := by
  unfold ofName?
  dsimp only
  constructor
  · intro made
    split at made
    · rename_i fits
      cases made
      exact ⟨fits, _, rfl⟩
    · cases made
  · rintro ⟨fits, count, padded⟩
    rw [dif_pos fits, Option.some.injEq]
    exact eq_of_octets_eq_append rfl padded

theorem ofName?_eq_none_iff :
    ofName? name = none ↔
      ¬ (1 ≤ (Utf8.encode name).length ∧ (Utf8.encode name).length ≤ width) :=
  dite_eq_right_iff.trans ⟨fun none fits => Option.some_ne_none _ (none fits),
    fun unfit fits => absurd fits unfit⟩

theorem toNetworkError_nameWidth (name : String) :
    (Envelope.Fault.nameWidth name).toNetworkError =
      .malformedEnvelope s!"command name {Text.quoted name} does not fit in 12 bytes" := by
  refine congrArg NetworkError.malformedEnvelope ?_
  show "command name " ++ Text.quoted name ++ " does not fit in " ++ "12" ++ " bytes" =
    "command name " ++ Text.quoted name ++ " does not fit in 12 bytes"
  rw [String.append_assoc, String.append_assoc]
  rfl

/-- The field of a name spells the name without the zeros at its end. -/
theorem name_of_ofName? (made : ofName? name = some field) :
    field.name = withoutPadding name := by
  obtain ⟨-, count, padded⟩ := ofName?_eq_some_iff.mp made
  rw [NameField.name, spell, padded, dropPadding_encode_append, Utf8.decodeLossy_encode]

/-- Names that differ in zeros at their end only share their field, and no others do. -/
theorem ofName?_eq_ofName?_iff {other : String} {otherField : NameField}
    (made : ofName? name = some field) (otherMade : ofName? other = some otherField) :
    field = otherField ↔ ∃ chars count otherCount,
      name.toList = chars ++ List.replicate count '\x00' ∧
      other.toList = chars ++ List.replicate otherCount '\x00' := by
  constructor
  · rintro rfl
    obtain ⟨count, same⟩ := exists_toList_eq_append name
    obtain ⟨otherCount, otherSame⟩ := exists_toList_eq_append other
    rw [← name_of_ofName? otherMade, name_of_ofName? made] at otherSame
    exact ⟨_, count, otherCount, same, otherSame⟩
  · rintro ⟨chars, zeros, otherZeros, same, otherSame⟩
    obtain ⟨-, count, padded⟩ := ofName?_eq_some_iff.mp made
    obtain ⟨-, otherCount, otherPadded⟩ := ofName?_eq_some_iff.mp otherMade
    rw [Utf8.encode, same, Utf8.encodeChars_append, Utf8.encodeChars_replicate_zero,
      List.append_assoc, List.replicate_append_replicate] at padded
    rw [Utf8.encode, otherSame, Utf8.encodeChars_append, Utf8.encodeChars_replicate_zero,
      List.append_assoc, List.replicate_append_replicate] at otherPadded
    exact eq_of_octets_eq_append padded otherPadded

/-- A field whose octets up to the last one that is not zero are a text is the field of that
text. -/
theorem ofName?_of_decode_eq_ok {front : Bytes} {last : UInt8} {count : Nat}
    (padded : field.octets = front ++ [last] ++ List.replicate count 0) (nonzero : last ≠ 0)
    (wellFormed : Utf8.decode (front ++ [last]) = .ok name) :
    field.name = name ∧ ofName? name = some field := by
  have written := (Utf8.decode_eq_ok_iff_eq_encode _ _).mp wellFormed
  have solid : (Utf8.encode name).getLast? ≠ some 0 := by
    rw [← written, List.getLast?_concat]
    exact fun zero => nonzero (Option.some.inj zero)
  rw [written] at padded
  have length := field.length_octets
  rw [padded, List.length_append] at length
  have positive : 1 ≤ (Utf8.encode name).length := by
    rw [← written, List.length_append]
    exact Nat.le_add_left 1 _
  constructor
  · rw [NameField.name, spell, padded, dropPadding_append_replicate _ solid,
      Utf8.decodeLossy_encode]
  · exact ofName?_eq_some_iff.mpr ⟨⟨positive, Nat.le.intro length⟩, count, padded⟩

/-- Padding and stripping of names undo each other up to zeros at the end. A name is put into a
field if and only if it has one to twelve octets, and a frame is refused for its name in all other
cases. A field spells the name that was put into it without the zeros at its end, so it spells the
name itself exactly if that does not end in zero, and two names have one field exactly if they
differ in zeros at their end only. A field that is not all zeros and is a text up to its last octet
that is none is the field of the name that it spells. -/
theorem padding_undone_up_to_zeros :
    (∀ name payload extra,
      let length := (Utf8.encode name).length
      if 1 ≤ length ∧ length ≤ 12 then
        ∃ field, ofName? name = some field ∧
          Envelope.create name payload extra = .ok ⟨field, payload, extra⟩
      else ofName? name = none ∧
        ∃ fault, Envelope.create name payload extra = .error fault ∧
          fault.toNetworkError =
            .malformedEnvelope s!"command name {Text.quoted name} does not fit in 12 bytes") ∧
    (∀ name field, ofName? name = some field →
      field.name = withoutPadding name ∧
        (field.name = name ↔ name.toList.getLast? ≠ some '\x00')) ∧
    (∀ name other field otherField,
      ofName? name = some field → ofName? other = some otherField →
        (field = otherField ↔ ∃ chars count otherCount,
          name.toList = chars ++ List.replicate count '\x00' ∧
          other.toList = chars ++ List.replicate otherCount '\x00')) ∧
    ∀ (field : NameField) (front : Bytes) (last : UInt8) (count : Nat) (text : String),
      field.octets = front ++ [last] ++ List.replicate count 0 → last ≠ 0 →
        Utf8.decode (front ++ [last]) = .ok text → ofName? field.name = some field := by
  refine ⟨fun name payload extra => ?_, fun name field made => ?_,
    fun _ _ _ _ => ofName?_eq_ofName?_iff,
    fun field front last count text padded nonzero read => ?_⟩
  · intro length
    by_cases fits : 1 ≤ length ∧ length ≤ 12
    · rw [if_pos fits]
      have made : ofName? name = some _ := dif_pos fits
      refine ⟨_, made, ?_⟩
      rw [Envelope.create, made]
    · rw [if_neg fits]
      have none : ofName? name = none := ofName?_eq_none_iff.mpr fits
      refine ⟨none, .nameWidth name, ?_, toNetworkError_nameWidth name⟩
      rw [Envelope.create, none]
  · rw [name_of_ofName? made]
    exact ⟨rfl, withoutPadding_eq_iff name⟩
  · obtain ⟨spelled, made⟩ := ofName?_of_decode_eq_ok padded nonzero read
    rw [spelled]
    exact made

/-- A name and the same with a zero behind, a name with a zero inside, and a field with a letter of
two octets. -/
theorem padding_undone_up_to_zeros_of_four :
    ∃ short long inner letter : NameField,
      ofName? "tx" = some short ∧ ofName? "tx\x00" = some long ∧ long.name = "tx" ∧ short = long ∧
      ofName? "in\x00v" = some inner ∧ inner.name = "in\x00v" ∧
      letter.octets = [195, 169, 0, 0, 0, 0, 0, 0, 0, 0, 0, 0] ∧
      ofName? letter.name = some letter := by
  obtain ⟨-, spells, shares, back⟩ := padding_undone_up_to_zeros
  have short : ofName? "tx" = some ⟨[116, 120, 0, 0, 0, 0, 0, 0, 0, 0, 0, 0], rfl⟩ := by decide
  have long : ofName? "tx\x00" = some ⟨[116, 120, 0, 0, 0, 0, 0, 0, 0, 0, 0, 0], rfl⟩ := by decide
  have inner : ofName? "in\x00v" = some ⟨[105, 110, 0, 118, 0, 0, 0, 0, 0, 0, 0, 0], rfl⟩ := by
    decide
  have stripped : withoutPadding "tx\x00" = "tx" := by decide
  have wellFormed : Utf8.decode ([195] ++ [169]) = .ok "\u00e9" := by cbv
  refine ⟨_, _, _, ⟨[195, 169, 0, 0, 0, 0, 0, 0, 0, 0, 0, 0], rfl⟩, short, long, ?_, ?_, inner,
    ?_, rfl, back _ [195] 169 10 "\u00e9" rfl (by decide) wellFormed⟩
  · rw [(spells _ _ long).1, stripped]
  · exact (shares _ _ _ _ short long).mpr ⟨"tx".toList, 0, 1, by decide, by decide⟩
  · exact (spells _ _ inner).2.mpr (by decide)

end NameField

end SqlLedger
