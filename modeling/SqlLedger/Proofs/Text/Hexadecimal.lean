/-
Octets are read back from their hexadecimal digits.

Sixteen digits stand for sixteen values, and an octet is written as two of them, so a reader that
takes the digits in pairs finds the octets again, whatever they are and however many.
-/

import SqlLedger.Bytes

namespace SqlLedger.Bytes

/-- The value of a lower-case hexadecimal digit. -/
def hexValue? (char : Char) : Option Nat :=
  (List.range 16).find? (hexDigit · == char)

theorem hexValue?_hexDigit {value : Nat} (small : value < 16) :
    hexValue? (hexDigit value) = some value := by
  have each : ∀ value < 16, hexValue? (hexDigit value) = some value := by decide
  exact each value small

/-- Reads pairs of hexadecimal digits. -/
def ofHex? : List Char → Option Bytes
  | [] => some []
  | [_] => none
  | high :: low :: rest =>
    match hexValue? high, hexValue? low, ofHex? rest with
    | some high, some low, some bytes => some (UInt8.ofNat (16 * high + low) :: bytes)
    | _, _, _ => none

/-- Octets are read back from their digits. -/
theorem ofHex?_toHex (bytes : Bytes) : ofHex? bytes.toHex.toList = some bytes := by
  rw [toHex, String.toList_ofList]
  induction bytes with
  | nil => rfl
  | cons byte bytes inductionHypothesis =>
    have small : byte.toNat < 16 * 16 := byte.toNat_lt
    have high := hexValue?_hexDigit (Nat.div_lt_of_lt_mul small)
    have low := hexValue?_hexDigit (Nat.mod_lt byte.toNat (by decide : 0 < 16))
    rw [List.flatMap_cons, List.cons_append, List.cons_append, List.nil_append]
    simp only [ofHex?, high, low, inductionHypothesis, Nat.div_add_mod, UInt8.ofNat_toNat]

end SqlLedger.Bytes
