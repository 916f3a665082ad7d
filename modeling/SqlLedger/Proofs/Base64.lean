/-
Base64 gives back what was written, and reads nothing else.

A base64 text is seen here as the six-bit values that a byte string falls into (`sextets`), each
written as its symbol, with padding behind. The reader does not go along the groups of four that
the writer makes: it reads the symbols of all but the last one to eight octets in one go and looks
for padding only in the rest. So the two are compared over the values and not over the groups. The
reader accepts symbols with the padding that fills up their last group, as long as the bits that
belong to no octet are zero (`decode_map_symbol_append`), and the values of a byte string are such.

The other way round, each stage of the reader tells what the octets are that it accepted: symbols
in front, symbols and then padding in the second half of a group at the end, no bits to spare. This
leaves one text for each byte string (`decode_eq_ok_iff_eq_encode`), which is more than the round
trip says, as a reader that took any bits for the unused ones would have the round trip as well.
-/

import SqlLedger.Base64
import SqlLedger.Proofs.Result
import SqlLedger.Proofs.Text.Utf8

namespace SqlLedger.Base64

/-! ### Symbols -/

theorem symbolValue?_symbol {value : Nat} (small : value < 64) :
    symbolValue? (symbol value) = some value := by
  revert value
  decide

theorem symbol_ne_pad {value : Nat} (small : value < 64) : symbol value ≠ pad := by
  revert value
  decide

/-! ### The values of a byte string -/

/-- The six-bit values that a byte string falls into; the bits that are left at its end are filled
up with zeros. -/
def sextets : Bytes → List Nat
  | first :: second :: third :: rest =>
    first.toNat / 4 :: (first.toNat % 4 * 16 + second.toNat / 16)
      :: (second.toNat % 16 * 4 + third.toNat / 64) :: third.toNat % 64 :: sextets rest
  | [first, second] =>
    [first.toNat / 4, first.toNat % 4 * 16 + second.toNat / 16, second.toNat % 16 * 4]
  | [first] => [first.toNat / 4, first.toNat % 4 * 16]
  | [] => []

/-- How much padding a text needs for its last group. -/
def paddingLength (bytes : Bytes) : Nat :=
  (3 - bytes.length % 3) % 3

theorem paddingLength_group (first second third : UInt8) (rest : Bytes) :
    paddingLength (first :: second :: third :: rest) = paddingLength rest := by
  simp only [paddingLength, List.length_cons]
  omega

theorem paddingLength_le (bytes : Bytes) : paddingLength bytes ≤ 2 := by
  rw [paddingLength]
  omega

theorem sextets_lt (bytes : Bytes) : ∀ value ∈ sextets bytes, value < 64 := by
  fun_induction sextets bytes with
  | case1 first second third rest inductionHypothesis =>
    have firstSmall := first.toNat_lt
    have secondSmall := second.toNat_lt
    have thirdSmall := third.toNat_lt
    simp only [List.forall_mem_cons]
    exact ⟨by omega, by omega, by omega, by omega, inductionHypothesis⟩
  | case2 first second =>
    have firstSmall := first.toNat_lt
    have secondSmall := second.toNat_lt
    simp only [List.forall_mem_cons]
    exact ⟨by omega, by omega, by omega, nofun⟩
  | case3 first =>
    have firstSmall := first.toNat_lt
    simp only [List.forall_mem_cons]
    exact ⟨by omega, by omega, nofun⟩
  | case4 => exact nofun

/-- The padding fills up the last group of four. -/
theorem whole_groups (bytes : Bytes) :
    ((sextets bytes).length + paddingLength bytes) % 4 = 0 := by
  fun_induction sextets bytes with
  | case1 first second third rest inductionHypothesis =>
    rw [paddingLength_group]
    simp only [List.length_cons]
    omega
  | case2 | case3 | case4 => simp only [paddingLength, List.length_cons, List.length_nil]

/-- A base64 text is the symbols of its values with the padding behind. -/
theorem encode_eq (bytes : Bytes) :
    encode bytes =
      (sextets bytes).map symbol ++ List.replicate (paddingLength bytes) pad := by
  fun_induction sextets bytes with
  | case1 first second third rest inductionHypothesis =>
    rw [encode, paddingLength_group, inductionHypothesis]
    rfl
  | case2 | case3 | case4 => rfl

theorem unpack_sextets (bytes : Bytes) : unpack (sextets bytes) = bytes := by
  fun_induction sextets bytes with
  | case1 first second third rest inductionHypothesis =>
    have firstSmall := first.toNat_lt
    have secondSmall := second.toNat_lt
    have thirdSmall := third.toNat_lt
    simp only [unpack, inductionHypothesis, List.cons.injEq, and_true, ← UInt8.toNat_inj,
      UInt8.toNat_ofNat']
    omega
  | case2 first second =>
    have firstSmall := first.toNat_lt
    have secondSmall := second.toNat_lt
    simp only [unpack, List.cons.injEq, and_true, ← UInt8.toNat_inj, UInt8.toNat_ofNat']
    omega
  | case3 first =>
    have firstSmall := first.toNat_lt
    simp only [unpack, List.cons.injEq, and_true, ← UInt8.toNat_inj, UInt8.toNat_ofNat']
    omega
  | case4 => rfl

/-- A whole group in front does not touch the bits at the end. -/
theorem unusedBits_group (first second third fourth : Nat) (rest : List Nat) :
    unusedBits (first :: second :: third :: fourth :: rest) = unusedBits rest := by
  cases rest with
  | nil => simp only [unusedBits, List.length_cons, List.length_nil]
  | cons head tail =>
    have length : (first :: second :: third :: fourth :: head :: tail).length % 4 =
        (head :: tail).length % 4 := by
      simp only [List.length_cons]
      omega
    rw [unusedBits, unusedBits, length]
    simp only [List.getLastD_cons]

theorem unusedBits_sextets (bytes : Bytes) : unusedBits (sextets bytes) = 0 := by
  fun_induction sextets bytes with
  | case1 first second third rest inductionHypothesis =>
    rw [unusedBits_group, inductionHypothesis]
  | case2 first second =>
    show second.toNat % 16 * 4 % 4 = 0
    omega
  | case3 first =>
    show first.toNat % 4 * 16 % 16 = 0
    omega
  | case4 => rfl

/-! ### Reading -/

/-- Symbols are read as the values they stand for. -/
theorem readSymbols_map_symbol {values : List Nat} (small : ∀ value ∈ values, value < 64)
    (offset : Nat) : readSymbols offset (values.map symbol) = .ok values := by
  induction values generalizing offset with
  | nil => rfl
  | cons value values inductionHypothesis =>
    obtain ⟨smallValue, smallValues⟩ := List.forall_mem_cons.mp small
    rw [List.map_cons, readSymbols, symbolValue?_symbol smallValue]
    simp only [inductionHypothesis smallValues]
    rfl

/-- Padding that fills up a group in its second half is passed over. -/
theorem readTail_replicate_pad (start position count : Nat) (padding : Option Nat)
    (few : count ≤ 2) (whole : (position + count) % 4 = 0) :
    readTail start position padding (List.replicate count pad) = .ok [] := by
  induction count generalizing position padding with
  | zero => rfl
  | succ count inductionHypothesis =>
    have secondHalf : ¬ position % 4 < 2 := by omega
    rw [List.replicate_succ, readTail.eq_def]
    simp only [if_true, if_neg secondHalf]
    exact inductionHypothesis _ _ (by omega) (by omega)

/-- Symbols with the padding that fills up their last group are read as their values. -/
theorem readTail_map_symbol_append {values : List Nat} (small : ∀ value ∈ values, value < 64)
    (start position count : Nat) (few : count ≤ 2)
    (whole : (position + values.length + count) % 4 = 0) :
    readTail start position none (values.map symbol ++ List.replicate count pad) =
      .ok values := by
  induction values generalizing position with
  | nil => exact readTail_replicate_pad start position count none few whole
  | cons value values inductionHypothesis =>
    obtain ⟨smallValue, smallValues⟩ := List.forall_mem_cons.mp small
    rw [List.length_cons] at whole
    rw [List.map_cons, List.cons_append, readTail.eq_def]
    simp only [if_neg (symbol_ne_pad smallValue), symbolValue?_symbol smallValue]
    rw [inductionHypothesis smallValues (position + 1) (by omega)]
    rfl

/-- A text of whole groups is read if both of its parts are and no stray bits are left. -/
theorem decode_of_parts {text : Bytes} {body tail values : List Nat}
    (whole : text.length % 4 = 0)
    (front : readSymbols 0 (text.take (bodyLength text.length)) = .ok body)
    (back : readTail (bodyLength text.length) 0 none (text.drop (bodyLength text.length)) =
      .ok tail)
    (joined : body ++ tail = values) (unused : unusedBits values = 0) :
    decode text = .ok (unpack values) := by
  have noLoneSymbol : ¬ text.length % 4 = 1 := by omega
  have noMissingPadding : ¬ text.length % 4 ≠ 0 := not_not_intro whole
  have noStrayBits : ¬ unusedBits values ≠ 0 := not_not_intro unused
  subst joined
  unfold decode
  rw [if_neg noLoneSymbol]
  show (readSymbols 0 (text.take (bodyLength text.length)) >>= _) = _
  rw [front]
  show (readTail (bodyLength text.length) 0 none _ >>= _) = _
  rw [back]
  show ite (text.length % 4 ≠ 0) _ _ = _
  rw [if_neg noMissingPadding]
  show ite (unusedBits (body ++ tail) ≠ 0) _ _ = _
  rw [if_neg noStrayBits]
  rfl

/-- Symbols with the padding that fills up their last group are read if the bits that belong to no
octet are zero. -/
theorem decode_map_symbol_append {values : List Nat} {count : Nat}
    (small : ∀ value ∈ values, value < 64) (few : count ≤ 2)
    (whole : (values.length + count) % 4 = 0) (unused : unusedBits values = 0) :
    decode (values.map symbol ++ List.replicate count pad) = .ok (unpack values) := by
  have length : (values.map symbol ++ List.replicate count pad).length =
      values.length + count := by
    rw [List.length_append, List.length_map, List.length_replicate]
  -- The last one to eight octets hold all of the padding, and they start a group.
  have inside : bodyLength (values.length + count) ≤ (values.map symbol).length := by
    rw [List.length_map, bodyLength]
    omega
  have groups : bodyLength (values.length + count) % 4 = 0 := by
    rw [bodyLength]
    omega
  have wholeTail :
      (0 + (values.drop (bodyLength (values.length + count))).length + count) % 4 = 0 := by
    rw [List.length_map] at inside
    rw [List.length_drop]
    omega
  refine decode_of_parts (by rwa [length]) ?_ ?_
    (List.take_append_drop (bodyLength (values.length + count)) values) unused
  · rw [length, List.take_append_of_le_length inside, ← List.map_take]
    exact readSymbols_map_symbol (fun value member => small value (List.mem_of_mem_take member)) 0
  · rw [length, List.drop_append_of_le_length inside, ← List.map_drop]
    exact readTail_map_symbol_append
      (fun value member => small value (List.mem_of_mem_drop member)) _ 0 count few wholeTail

/-- What was written is read back. -/
theorem decode_encode (bytes : Bytes) : decode (encode bytes) = .ok bytes := by
  rw [encode_eq, decode_map_symbol_append (sextets_lt bytes) (paddingLength_le bytes)
    (whole_groups bytes) (unusedBits_sextets bytes), unpack_sextets]

/-! ### Reading only what is written -/

/-- An octet of the alphabet is the symbol of the value that it stands for. -/
theorem symbol_of_symbolValue? {byte : UInt8} {value : Nat}
    (known : symbolValue? byte = some value) : value < 64 ∧ symbol value = byte := by
  have small := byte.toNat_lt
  rw [← UInt8.toNat_inj, symbol, UInt8.toNat_ofNat']
  simp only [symbolValue?] at known
  repeat' split at known
  all_goals cases known
  all_goals
    refine ⟨by omega, ?_⟩
    repeat' split
    all_goals omega

/-- Values without bits to spare are those that the octets which they spell fall into. -/
theorem sextets_unpack {values : List Nat} (small : ∀ value ∈ values, value < 64)
    (noLoneSymbol : values.length % 4 ≠ 1) (unused : unusedBits values = 0) :
    sextets (unpack values) = values := by
  fun_induction unpack values with
  | case1 first second third fourth rest inductionHypothesis =>
    rw [unusedBits_group] at unused
    simp only [List.forall_mem_cons] at small
    simp only [List.length_cons] at noLoneSymbol
    rw [sextets, inductionHypothesis small.2.2.2.2 (by omega) unused]
    simp only [UInt8.toNat_ofNat', List.cons.injEq, and_true]
    omega
  | case2 first second third =>
    simp only [List.forall_mem_cons] at small
    change third % 4 = 0 at unused
    simp only [sextets, UInt8.toNat_ofNat', List.cons.injEq, and_true]
    omega
  | case3 first second =>
    simp only [List.forall_mem_cons] at small
    change second % 16 = 0 at unused
    simp only [sextets, UInt8.toNat_ofNat', List.cons.injEq, and_true]
    omega
  | case4 values noGroup noThree noTwo =>
    rcases values with _ | ⟨first, _ | ⟨second, _ | ⟨third, _ | ⟨fourth, rest⟩⟩⟩⟩
    · rfl
    · exact absurd rfl noLoneSymbol
    · exact absurd rfl (noTwo first second)
    · exact absurd rfl (noThree first second third)
    · exact absurd rfl (noGroup first second third fourth rest)

/-- What is read as symbols are the symbols of the values. -/
theorem eq_map_symbol_of_readSymbols {offset : Nat} {text : Bytes} {values : List Nat}
    (read : readSymbols offset text = .ok values) :
    (∀ value ∈ values, value < 64) ∧ text = values.map symbol := by
  fun_induction readSymbols offset text generalizing values with
  | case1 =>
    cases read
    exact ⟨nofun, rfl⟩
  | case2 => cases read
  | case3 offset byte rest value known inductionHypothesis =>
    obtain ⟨others, readOthers, rfl⟩ := Result.map_eq_ok_iff.mp read
    obtain ⟨small, rfl⟩ := symbol_of_symbolValue? known
    obtain ⟨smallOthers, rfl⟩ := inductionHypothesis readOthers
    exact ⟨List.forall_mem_cons.mpr ⟨small, smallOthers⟩, rfl⟩

/-- Behind padding there is nothing but padding, and all of it in the second half of a group. -/
theorem eq_replicate_pad_of_readTail {start position first : Nat} {text : Bytes}
    {values : List Nat} (read : readTail start position (some first) text = .ok values) :
    values = [] ∧ ∃ count, text = List.replicate count pad ∧
      (count = 0 ∨ 2 ≤ position % 4 ∧ position % 4 + count ≤ 4) := by
  induction text generalizing position with
  | nil =>
    cases read
    exact ⟨rfl, 0, rfl, Or.inl rfl⟩
  | cons byte rest inductionHypothesis =>
    rw [readTail.eq_def] at read
    dsimp only at read
    split at read
    · split at read
      · cases read
      · rename_i isPad secondHalf
        obtain ⟨none, count, rfl, room⟩ := inductionHypothesis read
        exact ⟨none, count + 1, by rw [isPad, List.replicate_succ], by omega⟩
    · cases read

/-- What is read at the end of a text are the symbols of the values, and padding in the second half
of a group. -/
theorem eq_map_symbol_append_of_readTail {start position : Nat} {text : Bytes}
    {values : List Nat} (read : readTail start position none text = .ok values) :
    (∀ value ∈ values, value < 64) ∧
      ∃ count, text = values.map symbol ++ List.replicate count pad ∧
        (count = 0 ∨ 2 ≤ (position + values.length) % 4 ∧
          (position + values.length) % 4 + count ≤ 4) := by
  induction text generalizing position values with
  | nil =>
    cases read
    exact ⟨nofun, 0, rfl, Or.inl rfl⟩
  | cons byte rest inductionHypothesis =>
    rw [readTail.eq_def] at read
    dsimp only at read
    split at read
    · split at read
      · cases read
      · rename_i isPad secondHalf
        obtain ⟨rfl, count, rfl, room⟩ := eq_replicate_pad_of_readTail read
        refine ⟨nofun, count + 1, by rw [isPad, List.replicate_succ]; rfl, Or.inr ?_⟩
        rw [List.length_nil]
        omega
    · split at read
      · cases read
      · rename_i value known
        obtain ⟨others, readOthers, rfl⟩ := Result.map_eq_ok_iff.mp read
        obtain ⟨small, rfl⟩ := symbol_of_symbolValue? known
        obtain ⟨smallOthers, count, rfl, room⟩ := inductionHypothesis readOthers
        refine ⟨List.forall_mem_cons.mpr ⟨small, smallOthers⟩, count, rfl, ?_⟩
        rw [List.length_cons, ← Nat.add_assoc, Nat.add_right_comm]
        exact room

/-- A text that is read has whole groups, its parts are read, and no stray bits are left. -/
theorem exists_parts_of_decode {text bytes : Bytes} (read : decode text = .ok bytes) :
    text.length % 4 = 0 ∧ ∃ body tail,
      readSymbols 0 (text.take (bodyLength text.length)) = .ok body ∧
      readTail (bodyLength text.length) 0 none (text.drop (bodyLength text.length)) = .ok tail ∧
      unusedBits (body ++ tail) = 0 ∧ unpack (body ++ tail) = bytes := by
  unfold decode at read
  by_cases loneSymbol : text.length % 4 = 1
  · rw [if_pos loneSymbol] at read
    dsimp only at read
    split at read <;> cases read
  · rw [if_neg loneSymbol] at read
    change (readSymbols 0 (text.take (bodyLength text.length)) >>= _) = _ at read
    obtain ⟨body, front, read⟩ := Result.bind_eq_ok_iff.mp read
    obtain ⟨tail, back, read⟩ := Result.bind_eq_ok_iff.mp read
    change ite (text.length % 4 ≠ 0) _ _ = _ at read
    split at read
    · cases read
    · rename_i whole
      change ite (unusedBits (body ++ tail) ≠ 0) _ _ = _ at read
      split at read
      · cases read
      · rename_i unused
        cases read
        exact ⟨Decidable.not_not.mp whole, body, tail, front, back, Decidable.not_not.mp unused,
          rfl⟩

/-- Symbols with the padding that fills up their last group are the text of the octets that they
spell, if the bits that belong to no octet are zero. -/
theorem encode_unpack {values : List Nat} {count : Nat} (small : ∀ value ∈ values, value < 64)
    (few : count ≤ 2) (whole : (values.length + count) % 4 = 0) (unused : unusedBits values = 0) :
    encode (unpack values) = values.map symbol ++ List.replicate count pad := by
  have same := sextets_unpack small (by omega) unused
  have padded := whole_groups (unpack values)
  have padding : paddingLength (unpack values) = count := by
    rw [same] at padded
    simp only [paddingLength] at padded ⊢
    omega
  rw [encode_eq, same, padding]

/-- A text whose parts are read is the symbols of their values, with padding behind, if any, in the
second half of a group. -/
theorem eq_map_symbol_append_of_parts {text : Bytes} {body tail : List Nat}
    (front : readSymbols 0 (text.take (bodyLength text.length)) = .ok body)
    (back : readTail (bodyLength text.length) 0 none (text.drop (bodyLength text.length)) =
      .ok tail) :
    (∀ value ∈ body ++ tail, value < 64) ∧
      ∃ count, text = (body ++ tail).map symbol ++ List.replicate count pad ∧
        (count = 0 ∨ 2 ≤ tail.length % 4 ∧ tail.length % 4 + count ≤ 4) := by
  obtain ⟨smallBody, bodyText⟩ := eq_map_symbol_of_readSymbols front
  obtain ⟨smallTail, count, tailText, room⟩ := eq_map_symbol_append_of_readTail back
  rw [Nat.zero_add] at room
  refine ⟨fun value member => (List.mem_append.mp member).elim (smallBody value) (smallTail value),
    count, ?_, room⟩
  rw [List.map_append, List.append_assoc, ← bodyText, ← tailText, List.take_append_drop]

/-- A text is read as a byte string exactly if it is the text of that byte string. -/
theorem decode_eq_ok_iff_eq_encode (text bytes : Bytes) :
    decode text = .ok bytes ↔ text = encode bytes := by
  constructor
  · intro read
    obtain ⟨whole, body, tail, front, back, unused, rfl⟩ := exists_parts_of_decode read
    obtain ⟨small, count, written, room⟩ := eq_map_symbol_append_of_parts front back
    have length : text.length = (body ++ tail).length + count := by
      rw [written, List.length_append, List.length_map, List.length_replicate]
    have few : count ≤ 2 := by omega
    rw [written, encode_unpack small few (length ▸ whole) unused]
  · rintro rfl
    exact decode_encode bytes

/-- A text of the one form that writing gives: symbols, with the padding that fills up their last
group, and no bits to spare. -/
def IsCanonical (text : Bytes) : Prop :=
  ∃ values count, text = values.map symbol ++ List.replicate count pad ∧
    (∀ value ∈ values, value < 64) ∧ count ≤ 2 ∧ (values.length + count) % 4 = 0 ∧
    unusedBits values = 0

theorem isCanonical_encode (bytes : Bytes) : IsCanonical (encode bytes) :=
  ⟨sextets bytes, paddingLength bytes, encode_eq bytes, sextets_lt bytes, paddingLength_le bytes,
    whole_groups bytes, unusedBits_sextets bytes⟩

/-- The texts of this form are those of byte strings, and all of them are read. -/
theorem isCanonical_iff_exists_decode (text : Bytes) :
    IsCanonical text ↔ ∃ bytes, decode text = .ok bytes := by
  constructor
  · rintro ⟨values, count, rfl, small, few, whole, unused⟩
    exact ⟨unpack values, decode_map_symbol_append small few whole unused⟩
  · rintro ⟨bytes, read⟩
    rw [(decode_eq_ok_iff_eq_encode text bytes).mp read]
    exact isCanonical_encode bytes

/-! ### As a text -/

/-- The base64 of a byte string as a text. -/
def text (bytes : Bytes) : String :=
  String.ofList ((encode bytes).map fun byte => Char.ofNat byte.toNat)

theorem toList_text (bytes : Bytes) :
    (text bytes).toList = (encode bytes).map fun byte => Char.ofNat byte.toNat :=
  String.toList_ofList

/-- What holds of padding and of every symbol holds of every octet of a base64 text. -/
theorem forall_mem_encode {property : UInt8 → Prop} (padding : property pad)
    (symbols : ∀ value < 64, property (symbol value)) (bytes : Bytes) :
    ∀ byte ∈ encode bytes, property byte := by
  intro byte member
  rw [encode_eq, List.mem_append] at member
  rcases member with member | member
  · obtain ⟨value, among, rfl⟩ := List.mem_map.mp member
    exact symbols value (sextets_lt bytes value among)
  · rwa [List.eq_of_mem_replicate member]

theorem notMem_text {char : Char} (padding : Char.ofNat pad.toNat ≠ char)
    (symbols : ∀ value < 64, Char.ofNat (symbol value).toNat ≠ char) (bytes : Bytes) :
    char ∉ (text bytes).toList := by
  have different : ∀ byte ∈ encode bytes, Char.ofNat byte.toNat ≠ char :=
    forall_mem_encode padding symbols bytes
  rw [toList_text, List.mem_map]
  rintro ⟨byte, member, same⟩
  exact different byte member same

theorem colon_notMem_text (bytes : Bytes) : ':' ∉ (text bytes).toList :=
  notMem_text (by decide) (by decide) bytes

theorem semicolon_notMem_text (bytes : Bytes) : ';' ∉ (text bytes).toList :=
  notMem_text (by decide) (by decide) bytes

/-- The octets of the text are the base64 itself. -/
theorem encodeChars_text (bytes : Bytes) : Utf8.encodeChars (text bytes).toList = encode bytes := by
  rw [toList_text]
  exact Utf8.encodeChars_map_ofNat (forall_mem_encode (by decide) (by decide) bytes)

/-- A text is read as a byte string exactly if it is the base64 of that byte string, character by
character. -/
theorem decode_encodeChars_eq_ok_iff (chars : List Char) (bytes : Bytes) :
    decode (Utf8.encodeChars chars) = .ok bytes ↔ chars = (text bytes).toList := by
  rw [decode_eq_ok_iff_eq_encode, ← encodeChars_text]
  constructor
  · intro same
    rw [← Utf8.decodeLossyChars_encodeChars chars, same, Utf8.decodeLossyChars_encodeChars]
  · exact congrArg Utf8.encodeChars

/-- Only the empty byte string has the empty text. -/
theorem toList_text_eq_nil_iff (bytes : Bytes) : (text bytes).toList = [] ↔ bytes = [] := by
  rw [toList_text, List.map_eq_nil_iff]
  rcases bytes with _ | ⟨first, _ | ⟨second, _ | ⟨third, rest⟩⟩⟩ <;>
    simp only [encode, reduceCtorEq]

end SqlLedger.Base64
