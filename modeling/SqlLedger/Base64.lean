/-
Base64 with the standard alphabet, read strictly.

Three octets become four symbols of six bits; one or two octets at the end become two or three
symbols whose unused bits are zero, and padding fills the group of four. Reading accepts exactly
what writing produces. When it refuses a text it names a cause, and the order in which the causes
are looked for is part of the format: a length that leaves one symbol over comes first, then
octets outside the alphabet in all but the last one to eight octets, then misplaced octets in
those, then missing padding, and last the unused bits.
-/

import SqlLedger.Bytes

namespace SqlLedger.Base64

/-! ### Symbols -/

/-- The octet that fills an incomplete group. -/
def pad : UInt8 := 61

/-- The octet that stands for six bits. -/
def symbol (value : Nat) : UInt8 :=
  UInt8.ofNat <|
    if value < 26 then 65 + value
    else if value < 52 then 97 + (value - 26)
    else if value < 62 then 48 + (value - 52)
    else if value = 62 then 43
    else 47

/-- The six bits that an octet stands for, if it is in the alphabet. -/
def symbolValue? (byte : UInt8) : Option Nat :=
  let code := byte.toNat
  if 65 ≤ code ∧ code ≤ 90 then some (code - 65)
  else if 97 ≤ code ∧ code ≤ 122 then some (code - 97 + 26)
  else if 48 ≤ code ∧ code ≤ 57 then some (code - 48 + 52)
  else if code = 43 then some 62
  else if code = 47 then some 63
  else none

/-! ### Writing -/

/-- The base64 text of a byte string. -/
def encode : Bytes → Bytes
  | first :: second :: third :: rest =>
    symbol (first.toNat / 4) :: symbol (first.toNat % 4 * 16 + second.toNat / 16)
      :: symbol (second.toNat % 16 * 4 + third.toNat / 64) :: symbol (third.toNat % 64)
      :: encode rest
  | [first, second] =>
    [symbol (first.toNat / 4), symbol (first.toNat % 4 * 16 + second.toNat / 16),
      symbol (second.toNat % 16 * 4), pad]
  | [first] => [symbol (first.toNat / 4), symbol (first.toNat % 4 * 16), pad, pad]
  | [] => []

/-! ### Reading -/

/-- Why a text is no base64. Offsets count octets of the text. -/
inductive Fault
  | invalidByte (byte : UInt8) (offset : Nat)
  | loneSymbol
  | invalidPadding
  | invalidLastSymbol (byte : UInt8) (offset : Nat)
  deriving DecidableEq, Repr

/-- The wording of a fault. -/
def Fault.message : Fault → String
  | .invalidByte byte offset => s!"Invalid byte {byte.toNat}, offset {offset}."
  | .loneSymbol => "Encoded text cannot have a 6-bit remainder."
  | .invalidPadding => "Invalid padding"
  | .invalidLastSymbol byte offset => s!"Invalid last symbol {byte.toNat}, offset {offset}."

/-- The values of symbols; padding is no symbol. `offset` is that of the first octet. -/
def readSymbols (offset : Nat) : Bytes → Except Fault (List Nat)
  | [] => .ok []
  | byte :: rest =>
    match symbolValue? byte with
    | none => .error (.invalidByte byte offset)
    | some value => (readSymbols (offset + 1) rest).map (value :: ·)

/-- The values of the symbols at the end of a text, which padding may follow. `start` is the offset
of this part, `position` counts from there, and `padding` is the position of the first padding
met. Padding in the first half of a group and symbols after padding are blamed on the first
padding. -/
def readTail (start position : Nat) (padding : Option Nat) : Bytes → Except Fault (List Nat)
  | [] => .ok []
  | byte :: rest =>
    if byte = pad then
      if position % 4 < 2 then .error (.invalidByte pad (start + padding.getD position))
      else readTail start (position + 1) (some (padding.getD position)) rest
    else
      match padding with
      | some first => .error (.invalidByte pad (start + first))
      | none =>
        match symbolValue? byte with
        | none => .error (.invalidByte byte (start + position))
        | some value => (readTail start (position + 1) none rest).map (value :: ·)

/-- The octets that groups of symbols spell; an incomplete group spells one or two. -/
def unpack : List Nat → Bytes
  | first :: second :: third :: fourth :: rest =>
    UInt8.ofNat (first * 4 + second / 16) :: UInt8.ofNat (second % 16 * 16 + third / 4)
      :: UInt8.ofNat (third % 4 * 64 + fourth) :: unpack rest
  | [first, second, third] =>
    [UInt8.ofNat (first * 4 + second / 16), UInt8.ofNat (second % 16 * 16 + third / 4)]
  | [first, second] => [UInt8.ofNat (first * 4 + second / 16)]
  | _ => []

/-- The bits of the last symbol that belong to no octet, given all symbols of the text. -/
def unusedBits (values : List Nat) : Nat :=
  match values.length % 4 with
  | 2 => values.getLastD 0 % 16
  | 3 => values.getLastD 0 % 4
  | _ => 0

/-- How many octets come before the last one to eight. -/
def bodyLength (length : Nat) : Nat :=
  (length - 1) / 8 * 8

/-- The octets that a text spells, or the first cause that rules it out. -/
def decode (text : Bytes) : Except Fault Bytes := do
  if text.length % 4 = 1 then
    let last := text.getLastD 0
    if last ≠ pad ∧ symbolValue? last = none then
      throw (.invalidByte last (text.length - 1))
    else throw .loneSymbol
  let start := bodyLength text.length
  let body ← readSymbols 0 (text.take start)
  let tail ← readTail start 0 none (text.drop start)
  if text.length % 4 ≠ 0 then throw .invalidPadding
  let values := body ++ tail
  if unusedBits values ≠ 0 then
    throw (.invalidLastSymbol (text.getD (values.length - 1) 0) (values.length - 1))
  return unpack values

end SqlLedger.Base64
