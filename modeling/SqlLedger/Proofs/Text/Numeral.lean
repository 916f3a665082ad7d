/-
Decimal texts of words are read back.

Reading a numeral checks the range at every digit, since a digit more makes a number no smaller: a
numeral whose number is in range has been in range all along (`readMagnitude_of_le`). The decimal
text of a signed word has no sign or a hyphen, and its number is in the range of the side that the
hyphen chooses, so it is read as the word that it was written for, from one end of the range to the
other (`readSigned64_toString`).
-/

import Mathlib
import SqlLedger.Text.Numeral

namespace SqlLedger.Text

/-! ### Digits -/

theorem isDigit_iff (char : Char) : char.isDigit = true ↔ '0' ≤ char ∧ char ≤ '9' := by
  rw [Char.isDigit, Bool.and_eq_true, decide_eq_true_eq, decide_eq_true_eq]
  rfl

theorem isDigit_of_mem_toDigits {number : Nat} {char : Char}
    (member : char ∈ Nat.toDigits 10 number) : char.isDigit = true :=
  Nat.isDigit_of_mem_toDigits (by decide) (by decide) member

theorem digitValue?_of_isDigit {char : Char} (digit : char.isDigit = true) :
    digitValue? char = some (char.toNat - '0'.toNat) :=
  if_pos ((isDigit_iff char).mp digit)

/-- Reading on makes a number no smaller. -/
theorem le_foldl_digits (value : Nat) (digits : List Nat) :
    value ≤ digits.foldl (fun value digit => value * 10 + digit) value := by
  induction digits generalizing value with
  | nil => exact le_rfl
  | cons digit digits inductionHypothesis =>
    have one : value ≤ value * 10 + digit := by omega
    exact le_trans one (inductionHypothesis _)

theorem ofDigitChars_eq_foldl_map (value : Nat) (chars : List Char) :
    Nat.ofDigitChars 10 chars value =
      (chars.map fun char => char.toNat - '0'.toNat).foldl
        (fun value digit => value * 10 + digit) value := by
  rw [List.foldl_map, Nat.ofDigitChars_eq_foldl]
  simp only [Nat.mul_comm _ 10]

theorem le_ofDigitChars (value : Nat) (digits : List Char) :
    value ≤ Nat.ofDigitChars 10 digits value :=
  (le_foldl_digits value _).trans_eq (ofDigitChars_eq_foldl_map value digits).symm

theorem readMagnitude_of_le {limit : Nat} {beyond : NumeralFault} {value : Nat}
    {digits : List Char} (decimal : ∀ char ∈ digits, char.isDigit = true)
    (fits : Nat.ofDigitChars 10 digits value ≤ limit) :
    readMagnitude limit beyond value digits = .ok (Nat.ofDigitChars 10 digits value) := by
  induction digits generalizing value with
  | nil => rfl
  | cons char digits inductionHypothesis =>
    obtain ⟨digit, decimal⟩ := List.forall_mem_cons.mp decimal
    rw [Nat.ofDigitChars_cons, Nat.mul_comm] at fits ⊢
    -- The digits behind this one make the number no smaller, so it is in range already.
    have small := le_trans (le_ofDigitChars _ digits) fits
    simp only [readMagnitude, digitValue?_of_isDigit digit, if_neg (Nat.not_lt.mpr small)]
    exact inductionHypothesis decimal fits

theorem readDigits_toDigits {limit : Nat} (beyond : NumeralFault) {number : Nat}
    (fits : number ≤ limit) : readDigits limit beyond (Nat.toDigits 10 number) = .ok number := by
  have decimal : ∀ char ∈ Nat.toDigits 10 number, char.isDigit = true := fun _ =>
    isDigit_of_mem_toDigits
  have value : Nat.ofDigitChars 10 (Nat.toDigits 10 number) 0 = number :=
    Nat.ofDigitChars_ten_toDigits
  have read : readMagnitude limit beyond 0 (Nat.toDigits 10 number) = .ok _ :=
    readMagnitude_of_le decimal (value.trans_le fits)
  rw [value] at read
  cases digits : Nat.toDigits 10 number with
  | nil => exact absurd digits Nat.toDigits_ne_nil
  | cons char rest =>
    rw [digits] at read
    exact read

/-! ### The values of digits -/

/-- No zero stands before other digits. -/
theorem eq_nil_of_toDigits_eq_zero_cons {number : Nat} {rest : List Char}
    (opens : Nat.toDigits 10 number = '0' :: rest) : rest = [] := by
  induction number using Nat.strongRecOn generalizing rest with
  | ind number inductionHypothesis =>
    by_cases single : number < 10
    · rw [Nat.toDigits_of_lt_base single] at opens
      exact (List.cons.inj opens).2.symm
    · rw [Nat.toDigits_of_base_le (by decide) (Nat.not_lt.mp single)] at opens
      obtain ⟨none, -⟩ | ⟨further, front, -⟩ := List.append_eq_cons_iff.mp opens
      · exact absurd none Nat.toDigits_ne_nil
      · -- The digits in front are those of a smaller number, which is then zero.
        have alone := inductionHypothesis (number / 10) (by omega) front
        have value : Nat.ofDigitChars 10 (Nat.toDigits 10 (number / 10)) 0 = number / 10 :=
          Nat.ofDigitChars_ten_toDigits
        rw [front, alone] at value
        have zero : 0 = number / 10 := value
        omega

/-- The values of the digits of a number. -/
def digitValues (number : Nat) : List Nat :=
  (Nat.toDigits 10 number).map fun char => char.toNat - '0'.toNat

theorem ofDigits_digitValues (number : Nat) : ofDigits 10 (digitValues number) = number := by
  rw [ofDigits, digitValues, ← ofDigitChars_eq_foldl_map]
  exact Nat.ofDigitChars_ten_toDigits

theorem digitValues_ne_nil (number : Nat) : digitValues number ≠ [] := fun none =>
  Nat.toDigits_ne_nil (List.map_eq_nil_iff.mp none)

theorem digitValues_ne_zero_cons_cons (number second : Nat) (rest : List Nat) :
    digitValues number ≠ 0 :: second :: rest := by
  intro opens
  obtain ⟨char, chars, digits, zero, more⟩ := List.map_eq_cons_iff.mp opens
  have digit := (isDigit_iff char).mp (isDigit_of_mem_toDigits (digits ▸ List.mem_cons_self))
  have isZero : char = '0' := by
    refine Char.le_antisymm ?_ digit.1
    show char.toNat ≤ '0'.toNat
    omega
  rw [isZero] at digits
  rw [eq_nil_of_toDigits_eq_zero_cons digits] at more
  cases more

/-! ### Signed words -/

/-- The decimal text of a number that is not negative consists of its digits. -/
theorem toList_toString_natCast (number : Nat) :
    (toString (number : Int)).toList = Nat.toDigits 10 number := by
  show (Nat.repr number).toList = _
  exact Nat.toList_repr

theorem toList_toString_negSucc (number : Nat) :
    (toString (Int.negSucc number)).toList = '-' :: Nat.toDigits 10 (number + 1) := by
  show ("-" ++ Nat.repr (number + 1)).toList = _
  rw [String.toList_append, Nat.toList_repr]
  rfl

/-- A decimal text holds digits and hyphens only. -/
theorem isDigit_or_eq_hyphen_of_mem_toString (number : Int) :
    ∀ char ∈ (toString number).toList, char.isDigit = true ∨ char = '-' := by
  intro char member
  rcases number with number | number
  · rw [Int.ofNat_eq_natCast, toList_toString_natCast] at member
    exact Or.inl (isDigit_of_mem_toDigits member)
  · rw [toList_toString_negSucc] at member
    rcases List.mem_cons.mp member with rfl | digit
    · exact Or.inr rfl
    · exact Or.inl (isDigit_of_mem_toDigits digit)

/-- A decimal text opens with a digit or a hyphen. -/
theorem exists_toList_toString_eq_cons (number : Int) :
    ∃ char rest, (toString number).toList = char :: rest ∧ (char.isDigit = true ∨ char = '-') := by
  rcases number with number | number
  · rcases digits : Nat.toDigits 10 number with _ | ⟨char, rest⟩
    · exact absurd digits Nat.toDigits_ne_nil
    · refine ⟨char, rest, (toList_toString_natCast number).trans digits, Or.inl ?_⟩
      exact isDigit_of_mem_toDigits (digits ▸ List.mem_cons_self)
  · exact ⟨'-', _, toList_toString_negSucc number, Or.inr rfl⟩

/-- A signed word is the one that holds its number. -/
theorem signed64?_toInt (word : Int64) : signed64? word.toInt = some word := by
  rw [signed64?, if_pos ⟨word.le_toInt, word.toInt_le⟩, Int64.ofInt_toInt]

theorem readSigned64_natCast {number : Nat} (fits : number ≤ Int64.maxValue.toInt.natAbs) :
    readSigned64 (toString (number : Int)) = .ok (Int64.ofInt number) := by
  have read := readDigits_toDigits .aboveRange fits
  unfold readSigned64 readSigned64.positive
  rw [toList_toString_natCast]
  split
  · rename_i none
    exact absurd none Nat.toDigits_ne_nil
  · rename_i plus
    have digit := isDigit_of_mem_toDigits (plus ▸ List.mem_cons_self)
    exact absurd digit (by decide)
  · rename_i hyphen
    have digit := isDigit_of_mem_toDigits (hyphen ▸ List.mem_cons_self)
    exact absurd digit (by decide)
  · rw [read]
    rfl

theorem readSigned64_negSucc {number : Nat} (fits : number + 1 ≤ Int64.minValue.toInt.natAbs) :
    readSigned64 (toString (Int.negSucc number)) = .ok (Int64.ofInt (Int.negSucc number)) := by
  have read := readDigits_toDigits .belowRange fits
  unfold readSigned64
  rw [toList_toString_negSucc]
  simp only [read]
  rfl

/-- The decimal text of a signed word is read as the word. -/
theorem readSigned64_toString (word : Int64) : readSigned64 (toString word.toInt) = .ok word := by
  have above : word.toInt ≤ 9223372036854775807 := word.toInt_le
  have below : -9223372036854775808 ≤ word.toInt := word.le_toInt
  have back : Int64.ofInt word.toInt = word := Int64.ofInt_toInt word
  rcases value : word.toInt with number | number
  · rw [value] at above back
    rw [← back]
    refine readSigned64_natCast ?_
    show number ≤ 9223372036854775807
    exact Int.ofNat_le.mp above
  · rw [value] at below back
    rw [← back]
    refine readSigned64_negSucc ?_
    show number + 1 ≤ 9223372036854775808
    omega

end SqlLedger.Text
