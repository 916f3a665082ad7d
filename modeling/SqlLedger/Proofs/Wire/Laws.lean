/-
The laws of codecs, and that every way of composing codecs keeps them.

A codec is lawful (`Lawful`) when its reader takes exactly the octets that its writer writes and
leaves whatever stands behind them. The law is an equivalence on purpose: one direction is the
round trip in the middle of a stream, the other says that a value has one spelling and that
nothing else is accepted, and a record needs both for each of its fields. The values concerned
are those whose lengths fit their length words; a value whose octets can be counted at all is one
of them, which is the second half of the law.

Decoding drops what stands behind a value. Octets open with a value (`Opens`) when they are its
octets with anything behind, and by the law these are the values that decoding accepts, one at
most for each byte string.

A list can be longer than its octets only if its elements take none, so lists ask of their
elements that they take some (`Solid`). Both laws are classes, and the instances below follow the
composition of codecs, so that the codec of a record is lawful by the shape of its definition.
-/

import SqlLedger.Proofs.Text.Utf8
import SqlLedger.Wire.Codec

namespace SqlLedger

/-! ### Words -/

theorem Bytes.littleEndianValue_lt (bytes : Bytes) :
    littleEndianValue bytes < wordCount bytes.length := by
  induction bytes with
  | nil => decide
  | cons low rest inductionHypothesis =>
    have small := low.toNat_lt
    simp only [littleEndianValue, List.length_cons, wordCount]
    omega

/-- The words of a width spell exactly the values below their count. -/
theorem Bytes.eq_littleEndian_iff {width value : Nat} {bytes : Bytes}
    (small : value < wordCount width) :
    bytes = littleEndian width value ↔
      bytes.length = width ∧ littleEndianValue bytes = value := by
  constructor
  · rintro rfl
    exact ⟨length_littleEndian width value, by
      rw [littleEndianValue_littleEndian, Nat.mod_eq_of_lt small]⟩
  · rintro ⟨rfl, rfl⟩
    exact (littleEndian_littleEndianValue bytes).symm

theorem Bytes.wordCount_pos (width : Nat) : 0 < wordCount width := by
  induction width with
  | zero => decide
  | succ width inductionHypothesis =>
    simp only [wordCount]
    omega

/-- A word is that of the value modulo what the word can hold. -/
theorem Bytes.littleEndian_mod (width value : Nat) :
    littleEndian width (value % wordCount width) = littleEndian width value := by
  have small : value % wordCount width < wordCount width :=
    Nat.mod_lt value (wordCount_pos width)
  exact ((eq_littleEndian_iff small).mpr
    ⟨length_littleEndian width value, littleEndianValue_littleEndian width value⟩).symm

namespace Codec

variable {α β : Type}

/-! ### The laws -/

/-- What a codec promises. -/
class Lawful (codec : Codec α) : Prop where
  /-- The reader takes a value exactly from the octets that the writer gives it, and leaves what
  stands behind them. -/
  read_eq_ok_iff : ∀ {bytes rest : Bytes} {value : α},
    codec.read bytes = .ok (value, rest) ↔
      codec.Fits value ∧ bytes = codec.write value ++ rest
  /-- A value with countably many octets has only lengths that can be counted. -/
  fits_of_length_lt : ∀ {value : α},
    (codec.write value).length < Bytes.wordCount 8 → codec.Fits value

/-- A codec whose values take at least one octet each. -/
class Solid (codec : Codec α) : Prop where
  write_ne_nil : ∀ value : α, codec.write value ≠ []

/-- A value is read back from its octets, whatever follows them. -/
theorem read_write_append (codec : Codec α) [Lawful codec] {value : α}
    (fits : codec.Fits value) (rest : Bytes) :
    codec.read (codec.write value ++ rest) = .ok (value, rest) :=
  Lawful.read_eq_ok_iff.mpr ⟨fits, rfl⟩

theorem fits_of_length_write_lt (codec : Codec α) [Lawful codec] {value : α}
    (short : (codec.write value).length < Bytes.wordCount 8) : codec.Fits value :=
  Lawful.fits_of_length_lt short

theorem length_write_pos (codec : Codec α) [Solid codec] (value : α) :
    0 < (codec.write value).length :=
  List.length_pos_iff.mpr (Solid.write_ne_nil value)

/-! ### Decoding -/

/-- A byte string opens with a value: it is the octets of the value with anything behind them. -/
def Opens (codec : Codec α) (bytes : Bytes) (value : α) : Prop :=
  codec.Fits value ∧ codec.write value <+: bytes

/-- The octets of a value open with it. -/
theorem opens_write {codec : Codec α} {value : α} (fits : codec.Fits value) :
    codec.Opens (codec.write value) value :=
  ⟨fits, List.prefix_refl _⟩

/-- Decoding accepts exactly the values that the octets open with. -/
theorem decode_eq_ok_iff_opens (codec : Codec α) [Lawful codec] (bytes : Bytes) (value : α) :
    codec.decode bytes = .ok value ↔ codec.Opens bytes value := by
  unfold decode
  constructor
  · intro decoded
    cases read : codec.read bytes with
    | error fault =>
      rw [read] at decoded
      cases decoded
    | ok result =>
      obtain ⟨found, rest⟩ := result
      rw [read] at decoded
      cases decoded
      obtain ⟨fits, rfl⟩ := Lawful.read_eq_ok_iff.mp read
      exact ⟨fits, List.prefix_append _ _⟩
  · rintro ⟨fits, rest, rfl⟩
    rw [read_write_append codec fits]
    rfl

/-- Octets open with one value at most. -/
theorem Opens.unique {codec : Codec α} [Lawful codec] {bytes : Bytes} {first second : α}
    (opens : codec.Opens bytes first) (again : codec.Opens bytes second) : first = second := by
  have decoded := (decode_eq_ok_iff_opens codec bytes first).mpr opens
  rw [(decode_eq_ok_iff_opens codec bytes second).mpr again] at decoded
  exact (Except.ok.inj decoded).symm

/-! ### Building blocks -/

theorem take_eq_ok_iff {count : Nat} {bytes octets rest : Bytes} :
    take count bytes = .ok (octets, rest) ↔ octets.length = count ∧ bytes = octets ++ rest := by
  unfold take
  constructor
  · intro read
    simp only at read
    split at read
    · cases read
    · rename_i enough
      cases read
      refine ⟨?_, (List.take_append_drop count bytes).symm⟩
      rw [List.length_take] at enough ⊢
      omega
  · rintro ⟨rfl, rfl⟩
    simp only [List.take_left, List.drop_left, Nat.lt_irrefl, if_false]

/-- A word is lawful when its conversions undo each other on the values a word can hold. -/
theorem Lawful.word {width : Nat} {toNat : α → Nat} {ofNat : Nat → α}
    (small : ∀ value, toNat value < Bytes.wordCount width)
    (ofNat_toNat : ∀ value, ofNat (toNat value) = value)
    (toNat_ofNat : ∀ number < Bytes.wordCount width, toNat (ofNat number) = number) :
    Lawful (word width toNat ofNat) where
  read_eq_ok_iff {bytes rest value} := by
    simp only [Codec.word, true_and]
    constructor
    · intro read
      split at read
      · cases read
      · rename_i octets left taken
        cases read
        obtain ⟨rfl, rfl⟩ := take_eq_ok_iff.mp taken
        rw [toNat_ofNat _ (Bytes.littleEndianValue_lt octets),
          Bytes.littleEndian_littleEndianValue]
    · rintro rfl
      rw [take_eq_ok_iff.mpr ⟨Bytes.length_littleEndian width (toNat value), rfl⟩]
      simp only [Bytes.littleEndianValue_littleEndian, Nat.mod_eq_of_lt (small value),
        ofNat_toNat]
  fits_of_length_lt _ := trivial

instance : Lawful nothing where
  read_eq_ok_iff {bytes rest value} := by
    simp only [nothing, true_and, List.nil_append, Except.ok.injEq, Prod.mk.injEq]
  fits_of_length_lt _ := trivial

instance {first : Codec α} {second : Codec β} [Lawful first] [Lawful second] :
    Lawful (pair first second) where
  read_eq_ok_iff {bytes rest value} := by
    simp only [pair]
    constructor
    · intro read
      split at read
      · cases read
      · rename_i left middle readFirst
        obtain ⟨fitsFirst, rfl⟩ := Lawful.read_eq_ok_iff.mp readFirst
        split at read
        · cases read
        · rename_i right last readSecond
          obtain ⟨fitsSecond, rfl⟩ := Lawful.read_eq_ok_iff.mp readSecond
          cases read
          exact ⟨⟨fitsFirst, fitsSecond⟩, (List.append_assoc _ _ _).symm⟩
    · rintro ⟨⟨fitsFirst, fitsSecond⟩, rfl⟩
      rw [List.append_assoc, read_write_append first fitsFirst]
      simp only
      rw [read_write_append second fitsSecond]
  fits_of_length_lt {value} short := by
    simp only [pair, List.length_append] at short
    exact ⟨fits_of_length_write_lt first (by omega), fits_of_length_write_lt second (by omega)⟩

instance {first : Codec α} {second : Codec β} [Solid first] : Solid (pair first second) where
  write_ne_nil value := by
    rw [pair]
    exact List.append_ne_nil_of_left_ne_nil (Solid.write_ne_nil value.1) _

/-- A type seen as another one is as lawful as the other, if the two views undo each other. -/
theorem Lawful.along {parts : α → β} {build : β → α} {codec : Codec β} [Lawful codec]
    (build_parts : ∀ value, build (parts value) = value)
    (parts_build : ∀ value, parts (build value) = value) :
    Lawful (along parts build codec) where
  read_eq_ok_iff {bytes rest value} := by
    simp only [Codec.along]
    constructor
    · intro read
      split at read
      · cases read
      · rename_i inner last readInner
        cases read
        rw [parts_build]
        exact Lawful.read_eq_ok_iff.mp readInner
    · intro written
      rw [Lawful.read_eq_ok_iff.mpr written]
      simp only [build_parts]
  fits_of_length_lt short := fits_of_length_write_lt codec short

theorem Solid.along {parts : α → β} {build : β → α} {codec : Codec β} [Solid codec] :
    Solid (along parts build codec) where
  write_ne_nil value := Solid.write_ne_nil (parts value)

/-! ### Scalars -/

instance : Lawful octet :=
  Lawful.word (fun value => value.toNat_lt) (fun _ => UInt8.ofNat_toNat) fun _ small =>
    UInt8.toNat_ofNat_of_lt' small

instance : Solid octet where
  write_ne_nil _ := List.cons_ne_nil _ _

instance : Lawful word32 :=
  Lawful.word (fun value => value.toNat_lt) (fun _ => UInt32.ofNat_toNat) fun _ small =>
    UInt32.toNat_ofNat_of_lt' small

instance : Lawful word64 :=
  Lawful.word (fun value => value.toNat_lt) (fun _ => UInt64.ofNat_toNat) fun _ small =>
    UInt64.toNat_ofNat_of_lt' small

instance : Lawful signed64 :=
  Lawful.along (fun value => value.toInt64_toUInt64) fun value => value.toUInt64_toInt64

instance : Lawful double :=
  Lawful.along (fun _ => rfl) fun _ => rfl

instance : Lawful flag where
  read_eq_ok_iff {bytes rest value} := by
    simp only [flag, true_and, List.cons_append, List.nil_append]
    constructor
    · intro read
      split at read
      · cases read
      · split at read
        · cases read
          simp only [*, Bool.false_eq_true, if_false]
        · split at read
          · cases read
            simp only [*, if_true]
          · cases read
    · rintro rfl
      cases value <;> rfl
  fits_of_length_lt _ := trivial

instance : Solid flag where
  write_ne_nil _ := List.cons_ne_nil _ _

/-! ### Lengths, octet strings, texts and lists -/

theorem readLength_eq_ok_iff {bytes rest : Bytes} {length : Nat} :
    readLength bytes = .ok (length, rest) ↔
      length < Bytes.wordCount 8 ∧ bytes = lengthWord length ++ rest := by
  unfold readLength lengthWord
  constructor
  · intro read
    split at read
    · cases read
    · rename_i octets last taken
      cases read
      obtain ⟨eight, rfl⟩ := take_eq_ok_iff.mp taken
      have small := Bytes.littleEndianValue_lt octets
      rw [eight] at small
      refine ⟨small, ?_⟩
      rw [← (Bytes.eq_littleEndian_iff small).mpr ⟨eight, rfl⟩]
  · rintro ⟨small, rfl⟩
    rw [take_eq_ok_iff.mpr ⟨Bytes.length_littleEndian 8 length, rfl⟩]
    simp only [Bytes.littleEndianValue_littleEndian, Nat.mod_eq_of_lt small]

instance : Lawful block where
  read_eq_ok_iff {bytes rest value} := by
    simp only [block]
    constructor
    · intro read
      split at read
      · cases read
      · rename_i length behind readWord
        obtain ⟨small, rfl⟩ := readLength_eq_ok_iff.mp readWord
        split at read
        · cases read
        · rename_i enough
          cases read
          have exact : (behind.take length).length = length := by
            rw [List.length_take] at enough ⊢
            omega
          rw [exact, List.append_assoc, List.take_append_drop]
          exact ⟨small, rfl⟩
    · rintro ⟨small, rfl⟩
      rw [List.append_assoc, readLength_eq_ok_iff.mpr ⟨small, rfl⟩]
      simp only [List.take_left, List.drop_left, Nat.lt_irrefl, if_false]
  fits_of_length_lt short := by
    simp only [block, List.length_append] at short ⊢
    omega

instance : Solid block where
  write_ne_nil _ := List.cons_ne_nil _ _

instance : Lawful text where
  read_eq_ok_iff {bytes rest value} := by
    simp only [text]
    constructor
    · intro read
      split at read
      · cases read
      · rename_i octets last readBlock
        split at read
        · cases read
        · rename_i chars decoded
          cases read
          obtain rfl := (Utf8.decode_eq_ok_iff_eq_encode octets value).mp decoded
          exact Lawful.read_eq_ok_iff.mp readBlock
    · intro written
      rw [Lawful.read_eq_ok_iff.mpr written]
      simp only
      rw [(Utf8.decode_eq_ok_iff_eq_encode _ value).mpr rfl]
  fits_of_length_lt short := fits_of_length_write_lt block short

instance : Solid text where
  write_ne_nil _ := List.cons_ne_nil _ _

/-- Reading a number of values takes exactly the octets of that many values. -/
theorem readMany_eq_ok_iff {element : Codec α} [Lawful element] {count : Nat}
    {bytes rest : Bytes} {values : List α} :
    readMany element.read count bytes = .ok (values, rest) ↔
      values.length = count ∧ (∀ value ∈ values, element.Fits value) ∧
        bytes = values.flatMap element.write ++ rest := by
  induction count generalizing bytes values with
  | zero =>
    simp only [readMany]
    constructor
    · intro read
      cases read
      exact ⟨rfl, fun _ member => absurd member List.not_mem_nil, rfl⟩
    · rintro ⟨none, -, rfl⟩
      rw [List.length_eq_zero_iff.mp none]
      rfl
  | succ count inductionHypothesis =>
    simp only [readMany]
    constructor
    · intro read
      split at read
      · cases read
      · rename_i first behind readFirst
        obtain ⟨fitsFirst, rfl⟩ := Lawful.read_eq_ok_iff.mp readFirst
        split at read
        · cases read
        · rename_i others last readOthers
          cases read
          obtain ⟨rfl, fitsOthers, rfl⟩ := inductionHypothesis.mp readOthers
          refine ⟨rfl, ?_, by rw [List.flatMap_cons, List.append_assoc]⟩
          exact List.forall_mem_cons.mpr ⟨fitsFirst, fitsOthers⟩
    · rintro ⟨counted, fits, rfl⟩
      cases values with
      | nil => cases counted
      | cons first others =>
        obtain ⟨fitsFirst, fitsOthers⟩ := List.forall_mem_cons.mp fits
        rw [List.flatMap_cons, List.append_assoc, read_write_append element fitsFirst]
        simp only
        rw [inductionHypothesis.mpr ⟨Nat.succ.inj counted, fitsOthers, rfl⟩]

/-- Elements that take octets are no more than their octets. -/
theorem length_le_length_flatMap (element : Codec α) [Solid element] (values : List α) :
    values.length ≤ (values.flatMap element.write).length := by
  induction values with
  | nil => exact Nat.le_refl 0
  | cons first others inductionHypothesis =>
    have positive := length_write_pos element first
    rw [List.flatMap_cons, List.length_append, List.length_cons]
    omega

/-- One element has no more octets than all of them together. -/
theorem length_write_le_length_flatMap (element : Codec α) {value : α} {values : List α}
    (member : value ∈ values) :
    (element.write value).length ≤ (values.flatMap element.write).length := by
  obtain ⟨before, behind, rfl⟩ := List.append_of_mem member
  rw [List.flatMap_append, List.flatMap_cons, List.length_append, List.length_append]
  omega

instance {element : Codec α} [Lawful element] [Solid element] : Lawful (list element) where
  read_eq_ok_iff {bytes rest values} := by
    simp only [list]
    constructor
    · intro read
      split at read
      · cases read
      · rename_i count behind readWord
        obtain ⟨small, rfl⟩ := readLength_eq_ok_iff.mp readWord
        obtain ⟨rfl, fits, rfl⟩ := readMany_eq_ok_iff.mp read
        exact ⟨⟨small, fits⟩, (List.append_assoc _ _ _).symm⟩
    · rintro ⟨⟨small, fits⟩, rfl⟩
      rw [List.append_assoc, readLength_eq_ok_iff.mpr ⟨small, rfl⟩]
      exact readMany_eq_ok_iff.mpr ⟨rfl, fits, rfl⟩
  fits_of_length_lt {values} short := by
    simp only [list, List.length_append] at short ⊢
    have counted := length_le_length_flatMap element values
    refine ⟨by omega, fun value member => fits_of_length_write_lt element ?_⟩
    have bounded := length_write_le_length_flatMap element member
    omega

instance {element : Codec α} : Solid (list element) where
  write_ne_nil _ := List.cons_ne_nil _ _

instance : Lawful octets :=
  inferInstanceAs (Lawful (list octet))

instance : Solid octets :=
  inferInstanceAs (Solid (list octet))

end Codec

end SqlLedger
