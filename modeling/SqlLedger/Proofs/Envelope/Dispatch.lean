/-
A name field is taken for a command only if it is exactly the name of that command with zeros
behind.

On the way to the catalog the field loses something twice: the zeros at its end are dropped, and
what is left is read leniently, so that different ill-formed octets give the same text. Neither
loss can make a name of the catalog. These names hold no zero and no replacement character, a text
without the replacement character is read from its own octets only, and octets without their
padding are the octets again once zeros are put behind them (`NameField.spell_eq_iff`). So both
steps are undone, and the octets that a command is dispatched from are determined up to the number
of zeros, which the width of the field fixes.
-/

import Mathlib
import SqlLedger.Proofs.Envelope.Name

namespace SqlLedger

/-! ### Undoing the reading of a name -/

namespace NameField

/-- A list is what is left of it when a value is stripped from its end, and that value over and over
behind. -/
theorem exists_rdropWhile_append_replicate {α : Type} [BEq α] [LawfulBEq α] (pad : α)
    (values : List α) :
    ∃ count, values.rdropWhile (· == pad) ++ List.replicate count pad = values := by
  have same : ∀ value ∈ values.rtakeWhile (· == pad), value = pad := by
    intro value member
    have equal := List.mem_rtakeWhile_imp member
    exact eq_of_beq equal
  refine ⟨(values.rtakeWhile (· == pad)).length, ?_⟩
  rw [← List.eq_replicate_of_mem same, List.rdropWhile_append_rtakeWhile]

/-- Octets are what is left of them without their padding, and zeros behind. -/
theorem exists_dropPadding_append_replicate (octets : Bytes) :
    ∃ count, dropPadding octets ++ List.replicate count 0 = octets :=
  exists_rdropWhile_append_replicate 0 octets

/-- A name without a zero at its end and without the replacement character is spelled by its own
octets with zeros behind, and by no others. -/
theorem spell_eq_iff {octets : Bytes} {name : String}
    (solid : (Utf8.encode name).getLast? ≠ some 0) (whole : Utf8.replacement ∉ name.toList) :
    spell octets = name ↔ ∃ count, octets = Utf8.encode name ++ List.replicate count 0 := by
  rw [spell, Utf8.decodeLossy_eq_iff_eq_encode whole]
  constructor
  · intro same
    obtain ⟨count, padded⟩ := exists_dropPadding_append_replicate octets
    exact ⟨count, by rw [← same, padded]⟩
  · rintro ⟨count, rfl⟩
    exact dropPadding_append_replicate count solid

/-- Fields of the same name that differ at most in their padding are the same. -/
theorem eq_of_octets_eq_append {first second : NameField} {name : Bytes} {count other : Nat}
    (padded : first.octets = name ++ List.replicate count 0)
    (again : second.octets = name ++ List.replicate other 0) : first = second := by
  have lengths : count = other := by
    have firstLength := first.length_octets
    have secondLength := second.length_octets
    rw [padded, List.length_append, List.length_replicate] at firstLength
    rw [again, List.length_append, List.length_replicate] at secondLength
    omega
  obtain ⟨octets, _⟩ := first
  obtain ⟨others, _⟩ := second
  simp only at padded again
  subst padded again lengths
  rfl

end NameField

/-! ### The names of the catalog -/

namespace Command

theorem replacement_notMem_name (command : Command) :
    Utf8.replacement ∉ command.name.toList := by
  cases command <;> decide

theorem zero_notMem_encode_name (command : Command) : 0 ∉ Utf8.encode command.name := by
  cases command <;> decide

/-- The catalog knows a command by its name only. -/
theorem ofName_eq_ok_iff {name : String} {command : Command} :
    ofName name = .ok command ↔ name = command.name := by
  constructor
  · intro known
    unfold ofName at known
    split at known
    · rename_i found search
      cases known
      have same := List.find?_some search
      exact (of_decide_eq_true same).symm
    · cases known
  · rintro rfl
    exact ofName_name command

/-- A name that no command has is reported as it is. -/
theorem ofName_of_forall_ne {name : String} (absent : ∀ command : Command, name ≠ command.name) :
    ofName name = .error (.unknownCommand name) := by
  unfold ofName
  split
  · rename_i found search
    have same := List.find?_some search
    exact absurd (of_decide_eq_true same).symm (absent found)
  · rfl

/-! ### Dispatch -/

/-- Octets that are the name of a command with nothing but zeros behind. -/
def IsSpelledBy (command : Command) (octets : Bytes) : Prop :=
  ∃ count, octets = Utf8.encode command.name ++ List.replicate count 0

theorem spell_eq_name_iff (octets : Bytes) (command : Command) :
    NameField.spell octets = command.name ↔ command.IsSpelledBy octets :=
  NameField.spell_eq_iff command.name_getLast?_ne command.replacement_notMem_name

/-- The octets that spell a command are a text. -/
theorem IsSpelledBy.decode_eq_ok {command : Command} {octets : Bytes}
    (spelled : command.IsSpelledBy octets) : ∃ text, Utf8.decode octets = .ok text := by
  obtain ⟨count, rfl⟩ := spelled
  refine ⟨command.name ++ String.ofList (List.replicate count '\x00'), ?_⟩
  rw [Utf8.decode_eq_ok_iff_eq_encode, Utf8.encode, Utf8.encode, String.toList_append,
    String.toList_ofList, Utf8.encodeChars_append, Utf8.encodeChars_replicate_zero]

/-- Behind a zero, octets that spell a command have zeros only. -/
theorem IsSpelledBy.eq_zero_of_mem {command : Command} {before after : Bytes} {byte : UInt8}
    (spelled : command.IsSpelledBy (before ++ 0 :: after)) (member : byte ∈ after) : byte = 0 := by
  obtain ⟨count, same⟩ := spelled
  rcases List.append_eq_append_iff.mp same with ⟨middle, name, zeros⟩ | ⟨middle, name, zeros⟩
  · cases middle with
    | nil =>
      rw [List.nil_append] at zeros
      exact List.eq_of_mem_replicate (zeros ▸ List.mem_cons_of_mem 0 member)
    | cons head tail =>
      obtain ⟨rfl, -⟩ := List.cons.inj zeros
      refine absurd ?_ command.zero_notMem_encode_name
      rw [name]
      exact List.mem_append_right before List.mem_cons_self
  · refine List.eq_of_mem_replicate (n := count) ?_
    rw [zeros]
    exact List.mem_append_right middle (List.mem_cons_of_mem 0 member)

/-- Octets that spell no command are dispatched as none, and are reported as the name that they
read as. -/
theorem ofName_spell_of_not_isSpelledBy {octets : Bytes}
    (absent : ∀ command : Command, ¬ command.IsSpelledBy octets) :
    ofName (NameField.spell octets) = .error (.unknownCommand (NameField.spell octets)) :=
  ofName_of_forall_ne fun command same =>
    absent command ((spell_eq_name_iff octets command).mp same)

/-- A field of the right width is dispatched as a command only if it is the field that the name of
the command is put into. -/
theorem exists_ofName?_eq_some_iff (command : Command) :
    ∃ field, NameField.ofName? command.name = some field ∧
      ∀ other : NameField, ofName other.name = .ok command ↔ other = field := by
  refine ⟨_, dif_pos command.name_fits, fun other => ?_⟩
  rw [ofName_eq_ok_iff, NameField.name, spell_eq_name_iff]
  constructor
  · rintro ⟨count, padded⟩
    exact NameField.eq_of_octets_eq_append padded rfl
  · rintro rfl
    exact ⟨_, rfl⟩

/-- A name field is taken for a command of the catalog only if it is exactly the name of that
command with zeros behind; whatever else it is, the error is that there is no such command. So
octets are refused that are no text, or hold a zero in front of anything but zeros; a text without
a zero at its end is taken for a command only if it is the name of the command letter by letter;
and in a field of the right width each command has one form, the one its name is written in. -/
theorem dispatch_by_exact_name :
    (∀ (octets : Bytes) (command : Command),
      ofName (NameField.spell octets) = .ok command ↔
        ∃ count, octets = Utf8.encode command.name ++ List.replicate count 0) ∧
    (∀ octets : Bytes,
      ofName (NameField.spell octets) = .error (.unknownCommand (NameField.spell octets)) ↔
        ∀ (command : Command) (count : Nat),
          octets ≠ Utf8.encode command.name ++ List.replicate count 0) ∧
    (∀ (octets : Bytes) (fault : Utf8.Fault), Utf8.decode octets = .error fault →
      ofName (NameField.spell octets) = .error (.unknownCommand (NameField.spell octets))) ∧
    (∀ (before after : Bytes) (byte : UInt8), byte ∈ after → byte ≠ 0 →
      ofName (NameField.spell (before ++ 0 :: after)) =
        .error (.unknownCommand (NameField.spell (before ++ 0 :: after)))) ∧
    (∀ (name : String) (count : Nat) (command : Command),
      (Utf8.encode name).getLast? ≠ some 0 →
        (ofName (NameField.spell (Utf8.encode name ++ List.replicate count 0)) = .ok command ↔
          name = command.name)) ∧
    ∀ command : Command, ∃ field, NameField.ofName? command.name = some field ∧
      ∀ other : NameField, ofName other.name = .ok command ↔ other = field := by
  refine ⟨?_, ?_, ?_, ?_, ?_, exists_ofName?_eq_some_iff⟩
  · intro octets command
    rw [ofName_eq_ok_iff, spell_eq_name_iff, IsSpelledBy]
  · intro octets
    constructor
    · intro unknown command count same
      have known := ofName_eq_ok_iff.mpr ((spell_eq_name_iff octets command).mpr ⟨count, same⟩)
      rw [unknown] at known
      cases known
    · intro absent
      exact ofName_spell_of_not_isSpelledBy fun command ⟨count, same⟩ => absent command count same
  · intro octets fault illFormed
    refine ofName_spell_of_not_isSpelledBy fun command spelled => ?_
    obtain ⟨text, read⟩ := spelled.decode_eq_ok
    rw [illFormed] at read
    cases read
  · intro before after byte member nonzero
    exact ofName_spell_of_not_isSpelledBy fun command spelled =>
      nonzero (spelled.eq_zero_of_mem member)
  · intro name count command solid
    rw [NameField.spell, NameField.dropPadding_append_replicate count solid,
      Utf8.decodeLossy_encode, ofName_eq_ok_iff]

/-- A name at the beginning of another one, a name with the first octet of a longer character
behind it, a name with a zero inside, and a name in capital letters. -/
theorem dispatch_by_exact_name_at_borders :
    ofName (NameField.spell [103, 101, 116, 98, 108, 111, 99, 107, 0, 0, 0, 0]) =
      .ok .fetchBlock ∧
    ofName (NameField.spell [103, 101, 116, 98, 108, 111, 99, 107, 115, 0, 0, 0]) =
      .ok .blocksBelow ∧
    Utf8.decode [116, 120, 0xC3] = .error (.incomplete 2) ∧
    ofName (NameField.spell [116, 120, 0xC3]) = .error (.unknownCommand "tx\uFFFD") ∧
    ofName (NameField.spell [105, 110, 0, 118, 0]) = .error (.unknownCommand "in\x00v") ∧
    ofName (NameField.spell [84, 88, 0]) ≠ .ok .deliverTransaction := by
  obtain ⟨exactly, -, illFormed, interrupted, texts, -⟩ := dispatch_by_exact_name
  have cutShort : Utf8.decode [116, 120, 0xC3] = .error (.incomplete 2) := by cbv
  have lenient : NameField.spell [116, 120, 0xC3] = "tx\uFFFD" := by cbv
  have withZero : NameField.spell ([105, 110] ++ 0 :: [118, 0]) = "in\x00v" := by cbv
  refine ⟨(exactly _ .fetchBlock).mpr ⟨4, by decide⟩, (exactly _ .blocksBelow).mpr ⟨3, by decide⟩,
    cutShort, ?_, ?_, ?_⟩
  · rw [← lenient]
    exact illFormed _ _ cutShort
  · rw [← withZero]
    exact interrupted [105, 110] [118, 0] 118 List.mem_cons_self (by decide)
  · intro known
    exact absurd ((texts "TX" 1 .deliverTransaction (by decide)).mp known) (by decide)

end Command

end SqlLedger
