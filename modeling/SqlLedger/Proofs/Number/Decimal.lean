/-
The characters of a double in the plain layout.

The text of a double is put together from decimal digits, a point, a hyphen and the words for what
is no number, whatever the double is and whatever decimal was chosen for it. So a double in a line
can be told from what separates it there, and never ends the line.
-/

import SqlLedger.Number.Decimal
import SqlLedger.Proofs.Text.Numeral

namespace SqlLedger.DecimalLayout

/-- Letters, digits, hyphen and point. -/
def IsNumeric (char : Char) : Prop :=
  char.isAlphanum = true ∨ char = '-' ∨ char = '.'

instance (char : Char) : Decidable (IsNumeric char) := instDecidableOr

/-- A mark that is no part of a number does not stand in one. -/
theorem notMem_of_isNumeric {mark : Char} (foreign : ¬ IsNumeric mark) {chars : List Char}
    (numeric : ∀ char ∈ chars, IsNumeric char) : mark ∉ chars := fun member =>
  foreign (numeric mark member)

theorem isNumeric_of_all {word : String} (all : word.toList.all (IsNumeric ·) = true) :
    ∀ char ∈ word.toList, IsNumeric char := fun char member =>
  of_decide_eq_true (List.all_eq_true.mp all char member)

theorem isNumeric_of_isDigit {char : Char} (digit : char.isDigit = true) : IsNumeric char := by
  refine Or.inl ?_
  rw [Char.isAlphanum, digit, Bool.or_true]

theorem isNumeric_of_mem_toDigits {number : Nat} {char : Char}
    (member : char ∈ Nat.toDigits 10 number) : IsNumeric char :=
  isNumeric_of_isDigit (Nat.isDigit_of_mem_toDigits (by decide) (by decide) member)

theorem isNumeric_of_mem_toString (number : Int) :
    ∀ char ∈ (toString number).toList, IsNumeric char := by
  intro char member
  rcases Text.isDigit_or_eq_hyphen_of_mem_toString number char member with digit | hyphen
  · exact isNumeric_of_isDigit digit
  · exact Or.inr (Or.inl hyphen)

theorem isNumeric_of_mem_replicate {count : Nat} {char : Char}
    (member : char ∈ List.replicate count '0') : IsNumeric char := by
  rw [List.eq_of_mem_replicate member]
  exact Or.inl rfl

/-- Placing the point adds nothing but zeros, a point and the layout's ending of whole numbers. -/
theorem isNumeric_of_mem_placePoint {layout : DecimalLayout} {digits : List Char} {exponent : Int}
    (ending : ∀ char ∈ layout.wholeEnding.toList, IsNumeric char)
    (numeric : ∀ char ∈ digits, IsNumeric char) :
    ∀ char ∈ layout.placePoint digits exponent, IsNumeric char := by
  intro char member
  have point : IsNumeric '.' := Or.inr (Or.inr rfl)
  have zero : IsNumeric '0' := Or.inl rfl
  unfold placePoint at member
  simp only at member
  split at member
  · rcases List.mem_append.mp member with front | last
    · rcases List.mem_append.mp front with digit | zeros
      · exact numeric char digit
      · exact isNumeric_of_mem_replicate zeros
    · exact ending char last
  · split at member
    · rcases List.mem_append.mp member with front | back
      · exact numeric char (List.mem_of_mem_take front)
      · rcases List.mem_cons.mp back with rfl | back
        · exact point
        · exact numeric char (List.mem_of_mem_drop back)
    · rcases List.mem_append.mp member with front | digit
      · rcases List.mem_cons.mp front with rfl | front
        · exact zero
        · rcases List.mem_cons.mp front with rfl | zeros
          · exact point
          · exact isNumeric_of_mem_replicate zeros
      · exact numeric char digit

/-- The plain text of a double holds letters, digits, hyphens and points only. -/
theorem isNumeric_of_mem_plain (number : Double) :
    ∀ char ∈ (plain.text number).toList, IsNumeric char := by
  have unsigned (decimal : Decimal) : ∀ char ∈ plain.unsigned decimal, IsNumeric char :=
    isNumeric_of_mem_placePoint nofun fun _ => isNumeric_of_mem_toDigits
  have hyphen : IsNumeric '-' := Or.inr (Or.inl rfl)
  intro char member
  unfold text at member
  split at member
  · exact isNumeric_of_all (by decide) char member
  · split at member
    · exact isNumeric_of_all (by decide) char member
    · exact isNumeric_of_all (by decide) char member
  · rw [String.toList_ofList] at member
    rcases List.mem_append.mp member with sign | digits
    · split at sign
      · rw [List.mem_singleton.mp sign]
        exact hyphen
      · exact nomatch sign
    · exact unsigned _ char digits

end SqlLedger.DecimalLayout
