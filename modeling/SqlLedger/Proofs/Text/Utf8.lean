/-
Strict reading of text accepts exactly what writing produces.

A character is written as one to four octets, and `Utf8.step` is the only place where octets are
judged. The file therefore works in two layers. For one character it shows that `step` finds it
at the head of the octets it is written as, whatever follows them, and that a character found at
the head is written as the octets it was found in; the table of second octets is what excludes a
second spelling. For whole texts both statements are inductions: on the characters in one
direction, on the run of the reader in the other. Together they say that no text has two
spellings and that nothing else is text, which is all that the wire needs to know. The octet zero
is the character zero and part of no other one, so zeros behind a text are characters of it.
-/

import SqlLedger.Text.Utf8

namespace SqlLedger.Utf8

/-! ### The octets that may follow -/

theorem isContinuation_eq_true_iff (byte : UInt8) :
    isContinuation byte = true ↔ 0x80 ≤ byte.toNat ∧ byte.toNat ≤ 0xBF := by
  simp only [isContinuation, Bool.and_eq_true, decide_eq_true_eq, UInt8.le_iff_toNat_le,
    UInt8.reduceToNat]

/-- The table of second octets as bounds: four first octets narrow the range at one end. -/
theorem allowsSecond_eq_true_iff (first second : UInt8) :
    allowsSecond first second = true ↔
      (0x80 ≤ second.toNat ∧ second.toNat ≤ 0xBF) ∧
        (first.toNat = 0xE0 → 0xA0 ≤ second.toNat) ∧
        (first.toNat = 0xED → second.toNat ≤ 0x9F) ∧
        (first.toNat = 0xF0 → 0x90 ≤ second.toNat) ∧
        (first.toNat = 0xF4 → second.toNat ≤ 0x8F) := by
  simp only [allowsSecond, isContinuation, UInt8.le_iff_toNat_le, ← UInt8.toNat_inj,
    UInt8.reduceToNat]
  repeat' split
  all_goals
    simp only [Bool.and_eq_true, decide_eq_true_eq]
    omega

/-! ### The head of a byte string -/

/-- A character of one octet at the head. -/
theorem step_one {first : UInt8} (rest : Bytes) (low : first.toNat < 0x80) :
    step first rest = .scalar (Char.ofNat first.toNat) 0 := by
  have ascii : first < 0x80 := UInt8.lt_iff_toNat_lt.mpr low
  simp only [step, ascii, if_true]

/-- A character of two octets at the head. -/
theorem step_two {first second : UInt8} (rest : Bytes)
    (lead : 0xC2 ≤ first.toNat ∧ first.toNat ≤ 0xDF)
    (allowed : allowsSecond first second = true) :
    step first (second :: rest) =
      .scalar (Char.ofNat (first.toNat % 32 * 64 + payload second)) 1 := by
  simp only [step, Bool.and_eq_true, decide_eq_true_eq, UInt8.lt_iff_toNat_lt,
    UInt8.le_iff_toNat_le, UInt8.reduceToNat]
  rw [if_neg (by omega), if_pos lead, if_pos allowed]

/-- A character of three octets at the head. -/
theorem step_three {first second third : UInt8} (rest : Bytes)
    (lead : 0xE0 ≤ first.toNat ∧ first.toNat ≤ 0xEF)
    (allowed : allowsSecond first second = true) (continued : isContinuation third = true) :
    step first (second :: third :: rest) =
      .scalar (Char.ofNat (first.toNat % 16 * 4096 + payload second * 64 + payload third)) 2 := by
  simp only [step, Bool.and_eq_true, decide_eq_true_eq, UInt8.lt_iff_toNat_lt,
    UInt8.le_iff_toNat_le, UInt8.reduceToNat]
  rw [if_neg (by omega), if_neg (by omega), if_pos lead, if_pos allowed, if_pos continued]

/-- A character of four octets at the head. -/
theorem step_four {first second third fourth : UInt8} (rest : Bytes)
    (lead : 0xF0 ≤ first.toNat ∧ first.toNat ≤ 0xF4)
    (allowed : allowsSecond first second = true) (continued : isContinuation third = true)
    (closed : isContinuation fourth = true) :
    step first (second :: third :: fourth :: rest) =
      .scalar (Char.ofNat (first.toNat % 8 * 262144 + payload second * 4096 + payload third * 64
        + payload fourth)) 3 := by
  simp only [step, Bool.and_eq_true, decide_eq_true_eq, UInt8.lt_iff_toNat_lt,
    UInt8.le_iff_toNat_le, UInt8.reduceToNat]
  rw [if_neg (by omega), if_neg (by omega), if_neg (by omega), if_pos lead, if_pos allowed,
    if_pos continued, if_pos closed]

/-- Inversion: the four ways in which a whole character stands at the head. -/
theorem step_eq_scalar_cases {first : UInt8} {rest : Bytes} {char : Char} {following : Nat}
    (found : step first rest = .scalar char following) :
    (first.toNat < 0x80 ∧ char = Char.ofNat first.toNat ∧ following = 0) ∨
    (∃ second tail, rest = second :: tail ∧ (0xC2 ≤ first.toNat ∧ first.toNat ≤ 0xDF) ∧
      allowsSecond first second = true ∧
      char = Char.ofNat (first.toNat % 32 * 64 + payload second) ∧ following = 1) ∨
    (∃ second third tail, rest = second :: third :: tail ∧
      (0xE0 ≤ first.toNat ∧ first.toNat ≤ 0xEF) ∧ allowsSecond first second = true ∧
      isContinuation third = true ∧
      char = Char.ofNat (first.toNat % 16 * 4096 + payload second * 64 + payload third) ∧
      following = 2) ∨
    (∃ second third fourth tail, rest = second :: third :: fourth :: tail ∧
      (0xF0 ≤ first.toNat ∧ first.toNat ≤ 0xF4) ∧ allowsSecond first second = true ∧
      isContinuation third = true ∧ isContinuation fourth = true ∧
      char = Char.ofNat (first.toNat % 8 * 262144 + payload second * 4096 + payload third * 64
        + payload fourth) ∧ following = 3) := by
  simp only [step, Bool.and_eq_true, decide_eq_true_eq, UInt8.lt_iff_toNat_lt,
    UInt8.le_iff_toNat_le, UInt8.reduceToNat] at found
  split at found
  · cases found
    exact Or.inl ⟨by assumption, rfl, rfl⟩
  split at found
  · rename_i lead
    rcases rest with _ | ⟨second, tail⟩
    · cases found
    · simp only at found
      split at found <;> cases found
      exact Or.inr (Or.inl ⟨second, tail, rfl, lead, by assumption, rfl, rfl⟩)
  split at found
  · rename_i lead
    rcases rest with _ | ⟨second, _ | ⟨third, tail⟩⟩
    · cases found
    · simp only at found
      split at found <;> cases found
    · simp only at found
      split at found
      · split at found <;> cases found
        exact Or.inr (Or.inr (Or.inl
          ⟨second, third, tail, rfl, lead, by assumption, by assumption, rfl, rfl⟩))
      · cases found
  split at found
  · rename_i lead
    rcases rest with _ | ⟨second, _ | ⟨third, _ | ⟨fourth, tail⟩⟩⟩
    · cases found
    · simp only at found
      split at found <;> cases found
    · simp only at found
      split at found
      · split at found <;> cases found
      · cases found
    · simp only at found
      split at found
      · split at found
        · split at found <;> cases found
          exact Or.inr (Or.inr (Or.inr ⟨second, third, fourth, tail, rfl, lead, by assumption,
            by assumption, by assumption, rfl, rfl⟩))
        · cases found
      · cases found
  · cases found

/-! ### One character -/

/-- The octets of the character with a given code point. -/
theorem utf8EncodeChar_ofNat {value : Nat} (valid : value.isValidChar) :
    String.utf8EncodeChar (Char.ofNat value) =
      if value ≤ 0x7F then [UInt8.ofNat value]
      else if value ≤ 0x7FF then
        [UInt8.ofNat (value / 64 % 32 + 0xC0), UInt8.ofNat (value % 64 + 0x80)]
      else if value ≤ 0xFFFF then
        [UInt8.ofNat (value / 4096 % 16 + 0xE0), UInt8.ofNat (value / 64 % 64 + 0x80),
          UInt8.ofNat (value % 64 + 0x80)]
      else
        [UInt8.ofNat (value / 262144 % 8 + 0xF0), UInt8.ofNat (value / 4096 % 64 + 0x80),
          UInt8.ofNat (value / 64 % 64 + 0x80), UInt8.ofNat (value % 64 + 0x80)] := by
  have code : (Char.ofNat value).val.toNat = value := by
    rw [Char.ofNat, dif_pos valid]
    rfl
  simp only [String.utf8EncodeChar, code]

/-- A character found at the head is written as the octets it was found in. -/
theorem utf8EncodeChar_of_step {first : UInt8} {rest : Bytes} {char : Char} {following : Nat}
    (found : step first rest = .scalar char following) :
    String.utf8EncodeChar char ++ rest.drop following = first :: rest := by
  rcases step_eq_scalar_cases found with ⟨low, rfl, rfl⟩ |
    ⟨second, tail, rfl, lead, allowed, rfl, rfl⟩ |
    ⟨second, third, tail, rfl, lead, allowed, continued, rfl, rfl⟩ |
    ⟨second, third, fourth, tail, rfl, lead, allowed, continued, closed, rfl, rfl⟩
  · rw [utf8EncodeChar_ofNat (Or.inl (by omega)), if_pos (by omega), UInt8.ofNat_toNat]
    rfl
  · rw [allowsSecond_eq_true_iff] at allowed
    simp only [payload]
    rw [utf8EncodeChar_ofNat (Or.inl (by omega)), if_neg (by omega), if_pos (by omega)]
    simp only [List.cons_append, List.nil_append, List.drop_succ_cons, List.drop_zero,
      List.cons.injEq, and_true, ← UInt8.toNat_inj, UInt8.toNat_ofNat']
    omega
  · rw [allowsSecond_eq_true_iff] at allowed
    rw [isContinuation_eq_true_iff] at continued
    simp only [payload]
    rw [utf8EncodeChar_ofNat (by simp only [Nat.isValidChar]; omega), if_neg (by omega),
      if_neg (by omega), if_pos (by omega)]
    simp only [List.cons_append, List.nil_append, List.drop_succ_cons, List.drop_zero,
      List.cons.injEq, and_true, ← UInt8.toNat_inj, UInt8.toNat_ofNat']
    omega
  · rw [allowsSecond_eq_true_iff] at allowed
    rw [isContinuation_eq_true_iff] at continued closed
    simp only [payload]
    rw [utf8EncodeChar_ofNat (by simp only [Nat.isValidChar]; omega), if_neg (by omega),
      if_neg (by omega), if_neg (by omega)]
    simp only [List.cons_append, List.nil_append, List.drop_succ_cons, List.drop_zero,
      List.cons.injEq, and_true, ← UInt8.toNat_inj, UInt8.toNat_ofNat']
    omega

/-- The octets of a character are found to be that character, whatever follows them. -/
theorem step_of_utf8EncodeChar (char : Char) (rest : Bytes) :
    ∃ first following, String.utf8EncodeChar char = first :: following ∧
      step first (following ++ rest) = .scalar char following.length := by
  have valid : char.toNat.isValidChar := char.valid
  have same : Char.ofNat char.toNat = char := Char.ofNat_toNat char
  generalize char.toNat = value at valid same
  subst same
  rw [utf8EncodeChar_ofNat valid]
  simp only [Nat.isValidChar] at valid
  split
  · refine ⟨_, _, rfl, ?_⟩
    rw [step_one _ (by simp only [UInt8.toNat_ofNat']; omega)]
    simp only [UInt8.toNat_ofNat', List.length_nil]
    congr 2
    omega
  split
  · refine ⟨_, _, rfl, ?_⟩
    rw [List.cons_append, step_two]
    · simp only [payload, UInt8.toNat_ofNat', List.length_cons, List.length_nil]
      congr 2
      omega
    · simp only [UInt8.toNat_ofNat']
      omega
    · simp only [allowsSecond_eq_true_iff, UInt8.toNat_ofNat']
      omega
  split
  · refine ⟨_, _, rfl, ?_⟩
    rw [List.cons_append, List.cons_append, step_three]
    · simp only [payload, UInt8.toNat_ofNat', List.length_cons, List.length_nil]
      congr 2
      omega
    · simp only [UInt8.toNat_ofNat']
      omega
    · simp only [allowsSecond_eq_true_iff, UInt8.toNat_ofNat']
      omega
    · simp only [isContinuation_eq_true_iff, UInt8.toNat_ofNat']
      omega
  · refine ⟨_, _, rfl, ?_⟩
    rw [List.cons_append, List.cons_append, List.cons_append, step_four]
    · simp only [payload, UInt8.toNat_ofNat', List.length_cons, List.length_nil]
      congr 2
      omega
    · simp only [UInt8.toNat_ofNat']
      omega
    · simp only [allowsSecond_eq_true_iff, UInt8.toNat_ofNat']
      omega
    · simp only [isContinuation_eq_true_iff, UInt8.toNat_ofNat']
      omega
    · simp only [isContinuation_eq_true_iff, UInt8.toNat_ofNat']
      omega

/-! ### Whole texts -/

@[simp]
theorem encodeChars_nil : encodeChars [] = [] := rfl

@[simp]
theorem encodeChars_cons (char : Char) (chars : List Char) :
    encodeChars (char :: chars) = String.utf8EncodeChar char ++ encodeChars chars := rfl

/-- The characters of one octet are written as the octets that are their code points. -/
theorem encodeChars_map_ofNat {bytes : Bytes} (low : ∀ byte ∈ bytes, byte.toNat < 0x80) :
    encodeChars (bytes.map fun byte => Char.ofNat byte.toNat) = bytes := by
  induction bytes with
  | nil => rfl
  | cons byte bytes inductionHypothesis =>
    obtain ⟨lowByte, lowBytes⟩ := List.forall_mem_cons.mp low
    rw [List.map_cons, encodeChars_cons, utf8EncodeChar_ofNat (Or.inl (by omega)),
      if_pos (by omega), UInt8.ofNat_toNat, inductionHypothesis lowBytes]
    rfl

/-- Strict reading gives back the characters that were written. -/
theorem decodeChars_encodeChars (index : Nat) (chars : List Char) :
    decodeChars index (encodeChars chars) = .ok chars := by
  induction chars generalizing index with
  | nil => rw [encodeChars_nil, decodeChars]
  | cons char chars inductionHypothesis =>
    obtain ⟨first, following, written, found⟩ :=
      step_of_utf8EncodeChar char (encodeChars chars)
    rw [encodeChars_cons, written, List.cons_append, decodeChars, found]
    simp only [List.drop_left, inductionHypothesis]
    rfl

/-- Strict reading accepts only the octets that the characters it gives are written as. -/
theorem encodeChars_of_decodeChars {index : Nat} {bytes : Bytes} {chars : List Char}
    (read : decodeChars index bytes = .ok chars) : encodeChars chars = bytes := by
  fun_induction decodeChars index bytes generalizing chars with
  | case1 =>
    cases read
    rfl
  | case2 index first rest char following found inductionHypothesis =>
    cases tail : decodeChars (index + following + 1) (rest.drop following) with
    | error fault =>
      rw [tail] at read
      cases read
    | ok others =>
      rw [tail] at read
      cases read
      rw [encodeChars_cons, inductionHypothesis tail, utf8EncodeChar_of_step found]
  | case3 => cases read
  | case4 => cases read

/-- Octets are read as a text exactly when the text is written as these octets. -/
theorem decode_eq_ok_iff_eq_encode (bytes : Bytes) (text : String) :
    decode bytes = .ok text ↔ bytes = encode text := by
  unfold decode encode
  constructor
  · intro read
    cases strict : decodeChars 0 bytes with
    | error fault =>
      rw [strict] at read
      cases read
    | ok chars =>
      rw [strict] at read
      cases read
      rw [String.toList_ofList, encodeChars_of_decodeChars strict]
  · rintro rfl
    rw [decodeChars_encodeChars]
    simp only [Except.map, String.ofList_toList]

/-- Distinct texts have distinct octets. -/
theorem encode_injective {first second : String} (same : encode first = encode second) :
    first = second := by
  have reading := (decode_eq_ok_iff_eq_encode _ first).mpr rfl
  rw [same, (decode_eq_ok_iff_eq_encode _ second).mpr rfl] at reading
  exact (Except.ok.inj reading).symm

/-- Lenient reading gives back the characters that were written. -/
theorem decodeLossyChars_encodeChars (chars : List Char) :
    decodeLossyChars (encodeChars chars) = chars := by
  induction chars with
  | nil => rw [encodeChars_nil, decodeLossyChars]
  | cons char chars inductionHypothesis =>
    obtain ⟨first, following, written, found⟩ :=
      step_of_utf8EncodeChar char (encodeChars chars)
    rw [encodeChars_cons, written, List.cons_append, decodeLossyChars, found]
    simp only [List.drop_left, inductionHypothesis]

/-- Lenient reading finds nothing to replace in the octets of a text. -/
theorem decodeLossy_encode (text : String) : decodeLossy (encode text) = text := by
  rw [decodeLossy, encode, decodeLossyChars_encodeChars, String.ofList_toList]

/-- Where lenient reading replaces nothing, the octets are those of the characters that it gives. -/
theorem encodeChars_decodeLossyChars {bytes : Bytes}
    (whole : replacement ∉ decodeLossyChars bytes) :
    encodeChars (decodeLossyChars bytes) = bytes := by
  fun_induction decodeLossyChars bytes with
  | case1 => rfl
  | case2 first rest char following found inductionHypothesis =>
    have wholeBehind := fun member => whole (List.mem_cons_of_mem char member)
    rw [encodeChars_cons, inductionHypothesis wholeBehind, utf8EncodeChar_of_step found]
  | case3 => exact absurd List.mem_cons_self whole
  | case4 => exact absurd List.mem_cons_self whole

/-- Lenient reading gives a text without the replacement character for the octets of that text
only. -/
theorem decodeLossy_eq_iff_eq_encode {bytes : Bytes} {text : String}
    (whole : replacement ∉ text.toList) : decodeLossy bytes = text ↔ bytes = encode text := by
  constructor
  · rintro rfl
    rw [decodeLossy, String.toList_ofList] at whole
    rw [encode, decodeLossy, String.toList_ofList, encodeChars_decodeLossyChars whole]
  · rintro rfl
    exact decodeLossy_encode text

/-! ### Zeros -/

theorem encodeChars_append (chars others : List Char) :
    encodeChars (chars ++ others) = encodeChars chars ++ encodeChars others :=
  List.flatMap_append

/-- The character zero is written as the octet zero. -/
theorem encodeChars_replicate_zero (count : Nat) :
    encodeChars (List.replicate count '\x00') = List.replicate count 0 := by
  induction count with
  | zero => rfl
  | succ count inductionHypothesis =>
    rw [List.replicate_succ, List.replicate_succ, encodeChars_cons, inductionHypothesis]
    rfl

/-- No other character is written with the octet zero. -/
theorem zero_notMem_utf8EncodeChar {char : Char} (nonzero : char ≠ '\x00') :
    0 ∉ String.utf8EncodeChar char := by
  have valid : char.toNat.isValidChar := char.valid
  have same : Char.ofNat char.toNat = char := Char.ofNat_toNat char
  generalize char.toNat = value at valid same
  subst same
  have positive : value ≠ 0 := by
    rintro rfl
    exact nonzero rfl
  rw [utf8EncodeChar_ofNat valid]
  repeat' split
  all_goals
    simp only [List.mem_cons, List.not_mem_nil, or_false, ← UInt8.toNat_inj, UInt8.toNat_ofNat',
      UInt8.toNat_zero]
    omega

end SqlLedger.Utf8
