/-
Integers as texts.

A numeral is an optional sign and one or more decimal digits, leading zeros included, and it has
to lie in the range of the word that it is read for. The digits are judged from left to right:
the reading ends at the first character that is no digit or at the digit that leaves the range,
whichever comes first.
-/

namespace SqlLedger.Text

/-- Why a text is no integer of the expected range. -/
inductive NumeralFault
  | empty
  | invalidDigit
  | aboveRange
  | belowRange
  deriving DecidableEq, Repr

/-- The value of a decimal digit. -/
def digitValue? (char : Char) : Option Nat :=
  if '0' ≤ char ∧ char ≤ '9' then some (char.toNat - '0'.toNat) else none

/-- The number that digits in a base spell, the highest in front. -/
def ofDigits (base : Nat) (digits : List Nat) : Nat :=
  digits.foldl (fun value digit => value * base + digit) 0

/-- Goes on reading a magnitude of at most `limit` whose digits so far have the given value;
`beyond` is the fault of a digit that leaves the range. -/
def readMagnitude (limit : Nat) (beyond : NumeralFault) (value : Nat) :
    List Char → Except NumeralFault Nat
  | [] => .ok value
  | char :: rest =>
    match digitValue? char with
    | none => .error .invalidDigit
    | some digit =>
      let next := value * 10 + digit
      if limit < next then .error beyond else readMagnitude limit beyond next rest

/-- Reads a magnitude that has at least one digit. -/
def readDigits (limit : Nat) (beyond : NumeralFault) : List Char → Except NumeralFault Nat
  | [] => .error .invalidDigit
  | chars => readMagnitude limit beyond 0 chars

/-- Reads an unsigned integer of at most `greatest`; a plus sign may stand in front. -/
def readUnsigned (greatest : Nat) (text : String) : Except NumeralFault Nat :=
  match text.toList with
  | [] => .error .empty
  | '+' :: digits => readDigits greatest .aboveRange digits
  | digits => readDigits greatest .aboveRange digits

/-- The signed 64-bit word of an integer, if one holds it. -/
def signed64? (value : Int) : Option Int64 :=
  if Int64.minValue.toInt ≤ value ∧ value ≤ Int64.maxValue.toInt then some (Int64.ofInt value)
  else none

/-- Reads a signed 64-bit integer. -/
def readSigned64 (text : String) : Except NumeralFault Int64 :=
  match text.toList with
  | [] => .error .empty
  | '+' :: digits => positive digits
  | '-' :: digits =>
    (readDigits Int64.minValue.toInt.natAbs .belowRange digits).map fun magnitude =>
      Int64.ofInt (-(magnitude : Int))
  | digits => positive digits
where
  positive (digits : List Char) : Except NumeralFault Int64 :=
    (readDigits Int64.maxValue.toInt.natAbs .aboveRange digits).map fun magnitude =>
      Int64.ofInt magnitude

end SqlLedger.Text
