/-
What base64 complains of is there.

The reader looks for the causes of a refusal in an order of its own: the length first, with one look
at the last octet, then the front of the text, then its end, where padding is judged, and what is
wrong may stand in front of what is named. So the place that a complaint names is checked here
against the text itself (`Fault.Explains`), with the alphabet written out: an octet that is called
invalid stands at the offset and is not in the alphabet, as padding is not, and a last symbol that
is called invalid is in it, with nothing but padding behind.

Offsets count from the front of the whole text, while the reader of the end of a text counts from
where the end starts. It keeps two numbers, its own position and that of the first padding; both
are positions of what it has read so far, so what it blames by them is there
(`exists_invalidByte_of_readTail`).
-/

import SqlLedger.Proofs.Base64

namespace SqlLedger.Base64

/-! ### The alphabet -/

/-- The octets of the alphabet, in the order of the values that they stand for. -/
def alphabet : Bytes :=
  Utf8.encode "ABCDEFGHIJKLMNOPQRSTUVWXYZabcdefghijklmnopqrstuvwxyz0123456789+/"

/-- The symbols are the octets of the alphabet, in their order. -/
theorem alphabet_eq : alphabet = (List.range 64).map symbol := by
  decide +kernel

theorem symbol_mem_alphabet {value : Nat} (small : value < 64) : symbol value ∈ alphabet := by
  rw [alphabet_eq]
  exact List.mem_map.mpr ⟨value, List.mem_range.mpr small, rfl⟩

/-- An octet that stands for no value is not in the alphabet. -/
theorem notMem_alphabet_of_symbolValue? {byte : UInt8} (unknown : symbolValue? byte = none) :
    byte ∉ alphabet := by
  rw [alphabet_eq, List.mem_map]
  rintro ⟨value, small, rfl⟩
  cases (symbolValue?_symbol (List.mem_range.mp small)).symm.trans unknown

theorem pad_notMem_alphabet : pad ∉ alphabet := by
  decide +kernel

/-! ### Complaints -/

/-- The octet at a position of a text is not in the alphabet. -/
def InvalidAt (text : Bytes) (position : Nat) (byte : UInt8) : Prop :=
  text[position]? = some byte ∧ byte ∉ alphabet

/-- What a complaint says of a text is true of it. -/
def Fault.Explains (text : Bytes) : Fault → Prop
  | .invalidByte byte offset => InvalidAt text offset byte
  | .loneSymbol => text.length % 4 = 1
  | .invalidPadding => text.length % 4 = 2 ∨ text.length % 4 = 3
  | .invalidLastSymbol byte offset =>
    text[offset]? = some byte ∧ byte ∈ alphabet ∧ ∀ later ∈ text.drop (offset + 1), later = pad

variable {text front rest : Bytes} {byte : UInt8} {fault : Fault}

theorem invalidAt_append_cons (invalid : byte ∉ alphabet) (front rest : Bytes) :
    InvalidAt (front ++ byte :: rest) front.length byte := by
  refine ⟨?_, invalid⟩
  rw [List.getElem?_append_right (Nat.le_refl _), Nat.sub_self]
  rfl

/-! ### Reading a text up to where it is refused -/

/-- Symbols are refused for an octet among them. -/
theorem exists_invalidByte_of_readSymbols
    (refused : readSymbols front.length rest = .error fault) :
    ∃ position byte, fault = .invalidByte byte position ∧
      InvalidAt (front ++ rest) position byte := by
  induction rest generalizing front with
  | nil => cases refused
  | cons byte rest inductionHypothesis =>
    rw [readSymbols] at refused
    split at refused
    · rename_i unknown
      cases refused
      exact ⟨front.length, byte, rfl,
        invalidAt_append_cons (notMem_alphabet_of_symbolValue? unknown) front rest⟩
    · have further := Result.map_eq_error_iff.mp refused
      have longer : (front ++ [byte]).length = front.length + 1 := List.length_append
      rw [← longer] at further
      rw [List.append_cons]
      exact inductionHypothesis further

/-- The end of a text is refused for an octet in it, if what is remembered as the first padding is
padding that has been read. -/
theorem exists_invalidByte_of_readTail {start : Nat} {padding : Option Nat}
    (remembered : ∀ first ∈ padding, front[first]? = some pad)
    (refused : readTail start front.length padding rest = .error fault) :
    ∃ position byte, fault = .invalidByte byte (start + position) ∧
      InvalidAt (front ++ rest) position byte := by
  induction rest generalizing front padding with
  | nil => cases refused
  | cons byte rest inductionHypothesis =>
    have longer : (front ++ [byte]).length = front.length + 1 := List.length_append
    -- What was remembered stands where it stood when more is read.
    have blamed : ∀ first ∈ padding, InvalidAt (front ++ byte :: rest) first pad := by
      intro first known
      refine ⟨?_, pad_notMem_alphabet⟩
      rw [List.getElem?_append_left (List.getElem?_eq_some_iff.mp (remembered first known)).1]
      exact remembered first known
    rw [readTail.eq_def] at refused
    dsimp only at refused
    split at refused
    · rename_i isPad
      subst isPad
      split at refused
      · cases refused
        cases padding with
        | none =>
          exact ⟨front.length, pad, rfl, invalidAt_append_cons pad_notMem_alphabet front rest⟩
        | some first => exact ⟨first, pad, rfl, blamed first rfl⟩
      · rw [← longer] at refused
        rw [List.append_cons]
        refine inductionHypothesis ?_ refused
        rintro first ⟨⟩
        cases padding with
        | none => exact List.getElem?_concat_length
        | some first =>
          have earlier := remembered first rfl
          show (front ++ [pad])[first]? = some pad
          rw [List.getElem?_append_left (List.getElem?_eq_some_iff.mp earlier).1, earlier]
    · split at refused
      · rename_i first
        cases refused
        exact ⟨first, pad, rfl, blamed first rfl⟩
      · split at refused
        · rename_i unknown
          cases refused
          exact ⟨front.length, byte, rfl,
            invalidAt_append_cons (notMem_alphabet_of_symbolValue? unknown) front rest⟩
        · have further := Result.map_eq_error_iff.mp refused
          rw [← longer] at further
          rw [List.append_cons]
          exact inductionHypothesis (by rintro _ ⟨⟩) further

/-! ### The stages of a refusal -/

/-- The stage at which a text is refused, with what is known by then. -/
inductive RefusedFor (text : Bytes) : Fault → Prop
  | lastByte (lone : text.length % 4 = 1) (unknown : symbolValue? (text.getLastD 0) = none) :
    RefusedFor text (.invalidByte (text.getLastD 0) (text.length - 1))
  | loneSymbol (lone : text.length % 4 = 1) : RefusedFor text .loneSymbol
  | front {fault : Fault}
      (refused : readSymbols 0 (text.take (bodyLength text.length)) = .error fault) :
    RefusedFor text fault
  | back {fault : Fault}
      (refused : readTail (bodyLength text.length) 0 none
        (text.drop (bodyLength text.length)) = .error fault) :
    RefusedFor text fault
  | padding (notLone : text.length % 4 ≠ 1) (missing : text.length % 4 ≠ 0) :
    RefusedFor text .invalidPadding
  | strayBits {body tail : List Nat}
      (front : readSymbols 0 (text.take (bodyLength text.length)) = .ok body)
      (back : readTail (bodyLength text.length) 0 none
        (text.drop (bodyLength text.length)) = .ok tail)
      (stray : unusedBits (body ++ tail) ≠ 0) :
    RefusedFor text (.invalidLastSymbol (text.getD ((body ++ tail).length - 1) 0)
      ((body ++ tail).length - 1))

theorem refusedFor_of_decode_eq_error (refused : decode text = .error fault) :
    RefusedFor text fault := by
  unfold decode at refused
  by_cases lone : text.length % 4 = 1
  · rw [if_pos lone] at refused
    dsimp only at refused
    split at refused
    · rename_i unknown
      cases refused
      exact .lastByte lone unknown.2
    · cases refused
      exact .loneSymbol lone
  · rw [if_neg lone] at refused
    change (readSymbols 0 (text.take (bodyLength text.length)) >>= _) = _ at refused
    rcases Result.bind_eq_error_iff.mp refused with inFront | ⟨body, front, refused⟩
    · exact .front inFront
    rcases Result.bind_eq_error_iff.mp refused with inBack | ⟨tail, back, refused⟩
    · exact .back inBack
    change ite (text.length % 4 ≠ 0) _ _ = _ at refused
    split at refused
    · rename_i missing
      cases refused
      exact .padding lone missing
    · change ite (unusedBits (body ++ tail) ≠ 0) _ _ = _ at refused
      split at refused
      · rename_i stray
        cases refused
        exact .strayBits front back stray
      · cases refused

/-- The last octet of a text that is called invalid is there. -/
theorem invalidAt_last (lone : text.length % 4 = 1)
    (unknown : symbolValue? (text.getLastD 0) = none) :
    InvalidAt text (text.length - 1) (text.getLastD 0) := by
  rcases List.eq_nil_or_concat text with rfl | ⟨others, last, rfl⟩
  · cases lone
  · rw [List.concat_eq_append, List.getLastD_concat] at unknown ⊢
    rw [List.length_append]
    exact invalidAt_append_cons (notMem_alphabet_of_symbolValue? unknown) others []

/-- A text whose symbols leave bits to spare ends in the last of them, but for padding. -/
theorem explains_invalidLastSymbol {body tail : List Nat}
    (front : readSymbols 0 (text.take (bodyLength text.length)) = .ok body)
    (back : readTail (bodyLength text.length) 0 none (text.drop (bodyLength text.length)) =
      .ok tail)
    (stray : unusedBits (body ++ tail) ≠ 0) :
    (Fault.invalidLastSymbol (text.getD ((body ++ tail).length - 1) 0)
      ((body ++ tail).length - 1)).Explains text := by
  obtain ⟨small, count, written, -⟩ := eq_map_symbol_append_of_parts front back
  rcases List.eq_nil_or_concat (body ++ tail) with none | ⟨others, value, split⟩
  · rw [none] at stray
    exact absurd rfl stray
  · rw [List.concat_eq_append] at split
    rw [split] at small written ⊢
    have last : text = others.map symbol ++ symbol value :: List.replicate count pad := by
      rw [written, List.map_append, List.append_assoc]
      rfl
    have offset : (others ++ [value]).length - 1 = (others.map symbol).length := by
      rw [List.length_append, List.length_map]
      rfl
    have there : text[(others.map symbol).length]? = some (symbol value) := by
      rw [last, List.getElem?_append_right (Nat.le_refl _), Nat.sub_self]
      rfl
    have known : symbol value ∈ alphabet :=
      symbol_mem_alphabet (small value (List.mem_append_right _ List.mem_cons_self))
    rw [offset, List.getD_eq_getElem?_getD, there]
    refine ⟨there, known, fun later member => ?_⟩
    have upTo : (others.map symbol ++ [symbol value]).length = (others.map symbol).length + 1 :=
      List.length_append
    rw [last, List.append_cons, ← upTo, List.drop_left] at member
    exact List.eq_of_mem_replicate member

theorem RefusedFor.explains (refused : RefusedFor text fault) : fault.Explains text := by
  have parts : text.take (bodyLength text.length) ++ text.drop (bodyLength text.length) = text :=
    List.take_append_drop _ _
  cases refused with
  | lastByte lone unknown => exact invalidAt_last lone unknown
  | loneSymbol lone => exact lone
  | front refused =>
    obtain ⟨position, byte, rfl, inside, invalid⟩ :=
      @exists_invalidByte_of_readSymbols [] _ _ refused
    rw [List.nil_append] at inside
    refine ⟨?_, invalid⟩
    rw [← parts, List.getElem?_append_left (List.getElem?_eq_some_iff.mp inside).1, inside]
  | back refused =>
    obtain ⟨position, byte, rfl, inside, invalid⟩ :=
      @exists_invalidByte_of_readTail [] _ _ _ _ (by rintro _ ⟨⟩) refused
    rw [List.nil_append, List.getElem?_drop] at inside
    exact ⟨inside, invalid⟩
  | padding notLone missing =>
    show text.length % 4 = 2 ∨ text.length % 4 = 3
    omega
  | strayBits front back stray => exact explains_invalidLastSymbol front back stray

/-- A text that is refused is not canonical, and what the complaint says of it is true. -/
theorem explains_of_decode_eq_error (refused : decode text = .error fault) :
    ¬ IsCanonical text ∧ fault.Explains text := by
  refine ⟨fun canonical => ?_, (refusedFor_of_decode_eq_error refused).explains⟩
  obtain ⟨bytes, read⟩ := (isCanonical_iff_exists_decode text).mp canonical
  cases read.symm.trans refused

end SqlLedger.Base64
