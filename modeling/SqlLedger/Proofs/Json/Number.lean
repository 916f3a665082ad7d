/-
JSON reads decimal integers as they are written.

The reader takes the digits of a number first and values them after that, and it would keep on
taking digits, a point or an exponent. So a decimal text is read where none of these follows
(`StopsNumber`), which holds of everything that may stand behind a value. The digits are then the
values of the decimal digits, and gathering them never drops one, because a signed word of 64 bits
is within the range of the significand with each sign. No decimal text has a zero in front or a sign
in front of a zero, so all of them are integers for the reader, from the least word to the greatest
(`readNumber?_toString_append`).
-/

import SqlLedger.Json.Reader
import SqlLedger.Proofs.Text.Numeral

namespace SqlLedger.Json

/-- A text that does not go on with a number that stands in front of it. -/
def StopsNumber (rest : List Char) : Prop :=
  ∀ char ∈ rest.head?, Text.digitValue? char = none ∧ char ≠ '.' ∧ char ≠ 'e' ∧ char ≠ 'E'

namespace NumberParts

variable {rest : List Char}

theorem takeDigits_append {chars : List Char} (digits : ∀ char ∈ chars, char.isDigit = true)
    (stops : StopsNumber rest) :
    takeDigits (chars ++ rest) = (chars.map fun char => char.toNat - '0'.toNat, rest) := by
  induction chars with
  | nil =>
    cases rest with
    | nil => rfl
    | cons char rest =>
      rw [List.nil_append, takeDigits, (stops char rfl).1]
      rfl
  | cons char chars inductionHypothesis =>
    obtain ⟨digit, digits⟩ := List.forall_mem_cons.mp digits
    rw [List.cons_append, takeDigits, Text.digitValue?_of_isDigit digit]
    simp only [inductionHypothesis digits]
    rfl

theorem takeWhole?_toDigits_append (number : Nat) (stops : StopsNumber rest) :
    takeWhole? (Nat.toDigits 10 number ++ rest) = some (Text.digitValues number, rest) := by
  have taken : takeDigits (Nat.toDigits 10 number ++ rest) = (Text.digitValues number, rest) :=
    takeDigits_append (fun _ => Text.isDigit_of_mem_toDigits) stops
  rw [takeWhole?, taken]
  split
  · rename_i none
    exact absurd (congrArg Prod.fst none) (Text.digitValues_ne_nil number)
  · rename_i opens
    exact absurd (congrArg Prod.fst opens) (Text.digitValues_ne_zero_cons_cons number _ _)
  · rename_i same
    rw [same]

theorem takeFraction?_of_stopsNumber (stops : StopsNumber rest) :
    takeFraction? rest = some (none, rest) := by
  unfold takeFraction?
  split
  · exact absurd rfl (stops '.' rfl).2.1
  · rfl

theorem takeExponent?_of_stopsNumber (stops : StopsNumber rest) :
    takeExponent? rest = some (none, rest) := by
  unfold takeExponent?
  split
  · exact absurd rfl (stops 'e' rfl).2.2.1
  · exact absurd rfl (stops 'E' rfl).2.2.2
  · rfl

/-- Digits whose number is within the limit are all gathered. -/
theorem gather_of_le {limit value : Nat} {digits : List Nat}
    (fits : digits.foldl (fun value digit => value * 10 + digit) value ≤ limit) :
    gather limit value digits =
      (digits.foldl (fun value digit => value * 10 + digit) value, 0) := by
  induction digits generalizing value with
  | nil => rfl
  | cons digit digits inductionHypothesis =>
    have small := Nat.le_trans (Text.le_foldl_digits (value * 10 + digit) digits) fits
    rw [gather, if_neg (Nat.not_lt.mpr small)]
    exact inductionHypothesis fits

theorem gather_digitValues {number : Nat} (fits : number ≤ significandLimit) :
    gather significandLimit 0 (Text.digitValues number) = (number, 0) := by
  have value := Text.ofDigits_digitValues number
  rw [Text.ofDigits] at value
  rw [gather_of_le (value.trans_le fits), value]

/-- Decimal digits without a sign are an integer. -/
theorem value?_digitValues {number : Nat} (fits : number ≤ significandLimit) :
    value? ⟨false, Text.digitValues number, none, none⟩ = some (.integer number) := by
  simp only [value?, gather_digitValues fits]
  rfl

/-- Decimal digits behind a sign are an integer, if they do not spell zero. -/
theorem value?_digitValues_of_negative {number : Nat} (positive : number ≠ 0)
    (fits : number ≤ Int64.minValue.toInt.natAbs) :
    value? ⟨true, Text.digitValues number, none, none⟩ = some (.integer (-(number : Int))) := by
  have least : Int64.minValue.toInt = -9223372036854775808 := rfl
  rw [least] at fits
  have within : number ≤ significandLimit := by
    show number ≤ 18446744073709551615
    omega
  have held : ¬ (number = 0 ∨ -(number : Int) < Int64.minValue.toInt) := by
    rw [least]
    omega
  simp only [value?, gather_digitValues within, and_self, not_true_eq_false, if_true, if_false]
  exact if_neg held

end NumberParts

variable {rest : List Char}

theorem readNumber?_natCast_append {number : Nat} (fits : number ≤ NumberParts.significandLimit)
    (stops : StopsNumber rest) :
    readNumber? ((toString (number : Int)).toList ++ rest) =
      some (.integer number, rest) := by
  have noHyphen : ∀ more, Nat.toDigits 10 number ++ rest ≠ '-' :: more := by
    intro more same
    obtain ⟨none, -⟩ | ⟨further, front, -⟩ := List.append_eq_cons_iff.mp same
    · exact Nat.toDigits_ne_nil none
    · exact absurd (Text.isDigit_of_mem_toDigits (front ▸ List.mem_cons_self)) (by decide)
  have cut : NumberParts.read? (Nat.toDigits 10 number ++ rest) =
      some (⟨false, Text.digitValues number, none, none⟩, rest) := by
    unfold NumberParts.read?
    split
    rename_i negative unsigned same
    split at same
    · rename_i hyphen
      exact absurd hyphen (noHyphen _)
    · cases same
      simp only [Option.bind_eq_bind, Option.bind_some,
        NumberParts.takeWhole?_toDigits_append number stops,
        NumberParts.takeFraction?_of_stopsNumber stops,
        NumberParts.takeExponent?_of_stopsNumber stops]
      rfl
  rw [Text.toList_toString_natCast, readNumber?, cut]
  simp only [Option.bind_eq_bind, Option.bind_some, NumberParts.value?_digitValues fits]
  rfl

theorem readNumber?_negSucc_append {number : Nat}
    (fits : number + 1 ≤ Int64.minValue.toInt.natAbs) (stops : StopsNumber rest) :
    readNumber? ((toString (Int.negSucc number)).toList ++ rest) =
      some (.integer (Int.negSucc number), rest) := by
  have cut : NumberParts.read? ('-' :: Nat.toDigits 10 (number + 1) ++ rest) =
      some (⟨true, Text.digitValues (number + 1), none, none⟩, rest) := by
    simp only [NumberParts.read?, List.cons_append, Option.bind_eq_bind, Option.bind_some,
      NumberParts.takeWhole?_toDigits_append (number + 1) stops,
      NumberParts.takeFraction?_of_stopsNumber stops,
      NumberParts.takeExponent?_of_stopsNumber stops]
    rfl
  rw [Text.toList_toString_negSucc, readNumber?, cut]
  simp only [Option.bind_eq_bind, Option.bind_some,
    NumberParts.value?_digitValues_of_negative (Nat.succ_ne_zero number) fits]
  rfl

/-- The decimal text of a signed word is read as the word. -/
theorem readNumber?_toString_append (word : Int64) (stops : StopsNumber rest) :
    readNumber? ((toString word.toInt).toList ++ rest) = some (.integer word.toInt, rest) := by
  have above : word.toInt ≤ 9223372036854775807 := word.toInt_le
  have below : -9223372036854775808 ≤ word.toInt := word.le_toInt
  rcases value : word.toInt with number | number
  · rw [value] at above
    refine readNumber?_natCast_append ?_ stops
    show number ≤ 18446744073709551615
    have small : number ≤ 9223372036854775807 := Int.ofNat_le.mp above
    omega
  · rw [value] at below
    refine readNumber?_negSucc_append ?_ stops
    show number + 1 ≤ 9223372036854775808
    omega

end SqlLedger.Json
