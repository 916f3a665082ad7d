/-
Octet strings have one wire format.

An octet string is carried as a block or as a list of octets. A block is compared with its declared
length and cut off at once; a list is read octet by octet, as many as are declared or as there are.
Reading octet by octet is a cut as well (`readMany_octet`), by induction on the count: the reader
goes on for as long as there are octets, and a count beyond the input stops it where the input ends.
So both readers are a cut behind a length and differ in one thing only, the complaint about a cut
that finds too few octets. Which of the two a message uses cannot be told from its octets.
-/

import SqlLedger.Proofs.Wire.Growth

namespace SqlLedger.Codec

/-! ### Writing -/

theorem write_octet (byte : UInt8) : octet.write byte = [byte] := by
  show [UInt8.ofNat byte.toNat] = [byte]
  rw [UInt8.ofNat_toNat]

theorem write_block_eq_write_octets (value : Bytes) : block.write value = octets.write value := by
  have same : value.flatMap octet.write = value := by
    rw [funext write_octet, List.flatMap_singleton']
  show lengthWord value.length ++ value = lengthWord value.length ++ value.flatMap octet.write
  rw [same]

/-! ### Reading -/

theorem read_octet_cons (byte : UInt8) (rest : Bytes) :
    octet.read (byte :: rest) = .ok (byte, rest) :=
  Lawful.read_eq_ok_iff.mpr ⟨trivial, by rw [write_octet, List.singleton_append]⟩

theorem cut_eq (fault : ReadFault) (count : Nat) (bytes : Bytes) :
    cut fault count bytes =
      if count ≤ bytes.length then .ok (bytes.take count, bytes.drop count) else .error fault := by
  unfold cut
  rw [List.length_take]
  split
  · rw [if_neg (by omega)]
  · rw [if_pos (by omega)]

/-- Octets that are read one by one are cut off together, and too few of them are noticed where the
input ends, however many are asked for. -/
theorem readMany_octet (count : Nat) : readMany octet.read count = cut .endOfInput count := by
  induction count with
  | zero =>
    funext bytes
    rw [cut_eq, if_pos (Nat.zero_le _)]
    rfl
  | succ count inductionHypothesis =>
    funext bytes
    rw [readMany_succ, inductionHypothesis, cut_eq]
    cases bytes with
    | nil => rfl
    | cons byte rest =>
      unfold Reader.andThen
      rw [read_octet_cons, List.length_cons]
      simp only [cut_eq, Nat.add_le_add_iff_right]
      by_cases enough : count ≤ rest.length
      · simp only [if_pos enough, List.take_succ_cons, List.drop_succ_cons]
      · simp only [if_neg enough]

theorem read_octets : octets.read = readLength.andThen (cut .endOfInput) := by
  show (list octet).read = _
  rw [read_list, funext readMany_octet]

/-- A length that is cut short is missed by everything behind it. -/
theorem readLength_andThen_of_length_lt {α : Type} {bytes : Bytes} (short : bytes.length < 8)
    (next : Nat → Reader α) : readLength.andThen next bytes = .error .endOfInput := by
  have cutShort : (bytes.take 8).length < 8 :=
    Nat.lt_of_le_of_lt (List.length_take_le' 8 bytes) short
  unfold Reader.andThen readLength take
  simp only [if_pos cutShort]

theorem readLength_andThen_append {α : Type} {length : Nat} (small : length < Bytes.wordCount 8)
    (rest : Bytes) (next : Nat → Reader α) :
    readLength.andThen next (lengthWord length ++ rest) = next length rest := by
  unfold Reader.andThen
  rw [readLength_eq_ok_iff.mpr ⟨small, rfl⟩]

/-- Octets that are enough for a length are one, with something behind it. -/
theorem exists_eq_lengthWord_append {bytes : Bytes} (enough : 8 ≤ bytes.length) :
    ∃ length rest, length < Bytes.wordCount 8 ∧ bytes = lengthWord length ++ rest := by
  have eight : (bytes.take 8).length = 8 := List.length_take_of_le enough
  have small := Bytes.littleEndianValue_lt (bytes.take 8)
  rw [eight] at small
  have word : bytes.take 8 = lengthWord (Bytes.littleEndianValue (bytes.take 8)) :=
    (Bytes.eq_littleEndian_iff small).mpr ⟨eight, rfl⟩
  exact ⟨_, bytes.drop 8, small, by rw [← word, List.take_append_drop]⟩

/-! ### Both ways -/

/-- The two ways to carry an octet string are one format. A value is written the same in both.
Behind a declared length, whatever number of eight octets it is, both take that many octets and
leave what stands behind them, or find that there are fewer. So at every position of every input
they take the same octets and leave the same rest, or both fail: with the same text if the input
ends inside the length, and otherwise a block with a text that says nothing and a list with the end
of the input. -/
theorem octet_strings_have_one_format :
    (∀ value, block.write value = octets.write value) ∧
    (∀ (declared : UInt64) (rest : Bytes),
      let length := declared.toNat
      let bytes := lengthWord length ++ rest
      if length ≤ rest.length then
        block.read bytes = .ok (rest.take length, rest.drop length) ∧
          octets.read bytes = .ok (rest.take length, rest.drop length)
      else block.read bytes = .error .shortBlock ∧ octets.read bytes = .error .endOfInput) ∧
    ∀ (input : Bytes) (position : Nat),
      let bytes := input.drop position
      (∃ value rest, block.read bytes = .ok (value, rest) ∧
        octets.read bytes = .ok (value, rest)) ∨
      (bytes.length < 8 ∧ ∃ fault, block.read bytes = .error fault ∧
        octets.read bytes = .error fault ∧ fault.message = "io error: unexpected end of file") ∨
      (8 ≤ bytes.length ∧ ∃ fault other, block.read bytes = .error fault ∧
        octets.read bytes = .error other ∧ fault.message = "io error: " ∧
        other.message = "io error: unexpected end of file") := by
  refine ⟨write_block_eq_write_octets, fun declared rest => ?_, fun input position => ?_⟩
  · intro length bytes
    have small : length < Bytes.wordCount 8 := declared.toNat_lt
    rw [read_block, read_octets, readLength_andThen_append small,
      readLength_andThen_append small, cut_eq, cut_eq]
    split
    · exact ⟨rfl, rfl⟩
    · exact ⟨rfl, rfl⟩
  · intro bytes
    rw [read_block, read_octets]
    rcases Nat.lt_or_ge bytes.length 8 with short | enough
    · exact Or.inr (Or.inl ⟨short, .endOfInput, readLength_andThen_of_length_lt short _,
        readLength_andThen_of_length_lt short _, rfl⟩)
    · obtain ⟨length, rest, small, same⟩ := exists_eq_lengthWord_append enough
      rw [same, readLength_andThen_append small, readLength_andThen_append small, cut_eq, cut_eq,
        ← same]
      by_cases present : length ≤ rest.length
      · rw [if_pos present, if_pos present]
        exact Or.inl ⟨_, _, rfl, rfl⟩
      · rw [if_neg present, if_neg present]
        exact Or.inr (Or.inr ⟨enough, .shortBlock, .endOfInput, rfl, rfl, rfl, rfl⟩)

/-- The greatest length that can be declared stops the list where its two octets end. -/
example : octets.read (lengthWord 18446744073709551615 ++ [1, 2]) = .error .endOfInput := rfl

end SqlLedger.Codec
