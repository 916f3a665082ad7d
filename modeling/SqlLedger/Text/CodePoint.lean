/-
Characters by their code points.

Formats spell a character as the hexadecimal digits of its code point, in either case. The halves
of surrogate pairs and what lies above the last code point are no characters.
-/

import SqlLedger.Text.Numeral

namespace SqlLedger.Text

/-- The value of a hexadecimal digit of either case. -/
def hexValue? (char : Char) : Option Nat :=
  if '0' ≤ char ∧ char ≤ '9' then some (char.toNat - '0'.toNat)
  else if 'a' ≤ char ∧ char ≤ 'f' then some (char.toNat - 'a'.toNat + 10)
  else if 'A' ≤ char ∧ char ≤ 'F' then some (char.toNat - 'A'.toNat + 10)
  else none

/-- The value of a digit in a base of at most sixteen. -/
def digitIn? (base : Nat) (char : Char) : Option Nat := do
  let digit ← hexValue? char
  if digit < base then some digit else none

/-- The number that digits in a base spell, of which there may be none. -/
def numberIn? (base : Nat) (digits : List Char) : Option Nat :=
  (digits.mapM (digitIn? base)).map (ofDigits base)

/-- The character whose code point hexadecimal digits spell. -/
def codePoint? (digits : List Char) : Option Char := do
  let value ← numberIn? 16 digits
  if value.isValidChar then some (Char.ofNat value) else none

/-- Takes a code point of a given number of digits from the front of a text. -/
def takeCodePoint? (width : Nat) (chars : List Char) : Option (Char × List Char) :=
  if chars.length < width then none
  else (codePoint? (chars.take width)).map fun char => (char, chars.drop width)

end SqlLedger.Text
