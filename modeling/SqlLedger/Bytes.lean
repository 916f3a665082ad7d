/-
Byte strings, the currency of the whole library.

A byte string is a list of octets, so that every reader in the library is a function on lists
and every statement about it is an induction on them. Two spellings are fixed here because more
than one layer needs them: numbers as little-endian words of a given width, which the wire uses,
and pairs of lower-case hexadecimal digits, which listings show to a person.

Writing a word keeps the value modulo the number of words of its width; reading the octets back
gives exactly that residue, and every list of octets is the word of its own value.
-/

namespace SqlLedger

/-- A byte string is a list of octets. -/
abbrev Bytes := List UInt8

namespace Bytes

/-! ### Little-endian words -/

/-- The low `width` octets of a value, least significant first; what lies above them is dropped,
as a word of that width cannot hold it. -/
def littleEndian : Nat → Nat → Bytes
  | 0, _ => []
  | width + 1, value => UInt8.ofNat value :: littleEndian width (value / 256)

/-- The value that octets spell when the least significant comes first. -/
def littleEndianValue : Bytes → Nat
  | [] => 0
  | low :: rest => low.toNat + 256 * littleEndianValue rest

/-- How many words of a width there are. -/
def wordCount : Nat → Nat
  | 0 => 1
  | width + 1 => 256 * wordCount width

@[simp]
theorem length_littleEndian (width value : Nat) : (littleEndian width value).length = width := by
  induction width generalizing value with
  | zero => rfl
  | succ width inductionHypothesis => simp [littleEndian, inductionHypothesis]

/-- Reading a word back gives the value modulo what the word can hold. -/
@[simp]
theorem littleEndianValue_littleEndian (width value : Nat) :
    littleEndianValue (littleEndian width value) = value % wordCount width := by
  induction width generalizing value with
  | zero => simp [littleEndian, littleEndianValue, wordCount, Nat.mod_one]
  | succ width inductionHypothesis =>
    simp only [littleEndian, littleEndianValue, wordCount, inductionHypothesis,
      UInt8.toNat_ofNat', Nat.mod_mul]

/-- Every list of octets is the word of the value it spells, so no word has two spellings. -/
@[simp]
theorem littleEndian_littleEndianValue (bytes : Bytes) :
    littleEndian bytes.length (littleEndianValue bytes) = bytes := by
  induction bytes with
  | nil => rfl
  | cons low rest inductionHypothesis =>
    have small := low.toNat_lt
    have high : (low.toNat + 256 * littleEndianValue rest) / 256 = littleEndianValue rest := by
      omega
    have head : UInt8.ofNat (low.toNat + 256 * littleEndianValue rest) = low := by
      apply UInt8.toNat_inj.mp
      simp only [UInt8.toNat_ofNat']
      omega
    simp only [List.length_cons, littleEndian, littleEndianValue, high, head, inductionHypothesis]

/-! ### Hexadecimal digits -/

/-- The lower-case hexadecimal digit of a number below sixteen. -/
def hexDigit (value : Nat) : Char :=
  if value < 10 then Char.ofNat (48 + value) else Char.ofNat (87 + value)

/-- Two lower-case digits for each octet, high half first. -/
def toHex (bytes : Bytes) : String :=
  String.ofList <| bytes.flatMap fun byte =>
    [hexDigit (byte.toNat / 16), hexDigit (byte.toNat % 16)]

end Bytes

end SqlLedger
