/-
JSON numbers.

A number is cut into its parts first (`NumberParts.read?`) and given a value after that
(`NumberParts.value?`). Integers that a 64-bit word holds stay integers. For all others the digits
are gathered into a significand of at most 64 bits, digits that no longer fit are dropped, and the
significand, rounded to a double, is multiplied by a power of ten or divided by one, each step
rounding again. The last digit of the result is therefore not always the nearest one. A number
too large for a double is refused.
-/

import SqlLedger.Json.Value
import SqlLedger.Text.Numeral

namespace SqlLedger.Json

/-- The parts of a number as they stand in the text. -/
structure NumberParts where
  negative : Bool
  /-- The digits in front of the point. -/
  whole : List Nat
  /-- The digits behind the point, if there is one. -/
  fraction : Option (List Nat)
  /-- The exponent, if there is one: whether it is negative, and its digits. -/
  exponent : Option (Bool × List Nat)
  deriving DecidableEq, Repr

namespace NumberParts

/-! ### Cutting -/

/-- Takes the digits at the front of a text. -/
def takeDigits : List Char → List Nat × List Char
  | [] => ([], [])
  | char :: rest =>
    match Text.digitValue? char with
    | none => ([], char :: rest)
    | some digit =>
      let (digits, rest) := takeDigits rest
      (digit :: digits, rest)

/-- The digits in front of the point; no zero stands before other digits. -/
def takeWhole? (chars : List Char) : Option (List Nat × List Char) :=
  match takeDigits chars with
  | ([], _) | (0 :: _ :: _, _) => none
  | (digits, rest) => some (digits, rest)

/-- The digits behind a point, of which there is one at least, or nothing if no point follows. -/
def takeFraction? : List Char → Option (Option (List Nat) × List Char)
  | '.' :: rest =>
    match takeDigits rest with
    | ([], _) => none
    | (digits, rest) => some (some digits, rest)
  | rest => some (none, rest)

/-- The exponent, which has one digit at least, or nothing if none follows. -/
def takeExponent? : List Char → Option (Option (Bool × List Nat) × List Char)
  | 'e' :: rest | 'E' :: rest =>
    let (negative, rest) :=
      match rest with
      | '+' :: rest => (false, rest)
      | '-' :: rest => (true, rest)
      | rest => (false, rest)
    match takeDigits rest with
    | ([], _) => none
    | (digits, rest) => some (some (negative, digits), rest)
  | rest => some (none, rest)

/-- Reads the number at the front of a text. -/
def read? (chars : List Char) : Option (NumberParts × List Char) := do
  let (negative, rest) :=
    match chars with
    | '-' :: rest => (true, rest)
    | rest => (false, rest)
  let (whole, rest) ← takeWhole? rest
  let (fraction, rest) ← takeFraction? rest
  let (exponent, rest) ← takeExponent? rest
  return (⟨negative, whole, fraction, exponent⟩, rest)

/-! ### Valuing -/

/-- The greatest significand. -/
def significandLimit : Nat := UInt64.size - 1

/-- The greatest exponent that is told from an endless one. -/
def exponentLimit : Nat := 2147483647

/-- Appends digits to a number for as long as it stays within a limit, and counts those left. -/
def gather (limit value : Nat) : List Nat → Nat × Nat
  | [] => (value, 0)
  | digit :: rest =>
    if limit < value * 10 + digit then (value, rest.length + 1)
    else gather limit (value * 10 + digit) rest

/-- A power of ten as a double. -/
def powerOfTen (exponent : Nat) : Double :=
  .nearest false (Nat.pow 10 exponent) 1

/-- The significand times a power of ten, in doubles. Below the range of the powers the
significand is divided by the largest of them first, as often as it takes. -/
def scale? (negative : Bool) : Nat → Double → Int → Option Double
  | fuel, number, exponent =>
    if exponent.natAbs ≤ 308 then
      let power := powerOfTen exponent.natAbs
      if 0 ≤ exponent then
        let product := number.multiply power
        if product.isInfinite then none else some (product.withSign negative)
      else some ((number.divide power).withSign negative)
    else if number.isZero then some (number.withSign negative)
    else if 0 ≤ exponent then none
    else
      match fuel with
      | 0 => some (number.withSign negative)
      | fuel + 1 => scale? negative fuel (number.divide (powerOfTen 308)) (exponent + 308)

/-- The exponent that is written, and whether it is too large to be told from an endless one. -/
def writtenExponent (parts : NumberParts) : Int × Bool :=
  match parts.exponent with
  | none => (0, false)
  | some (negative, digits) =>
    let (magnitude, left) := gather exponentLimit 0 digits
    (if negative then -magnitude else magnitude, left ≠ 0)

/-- The value of a number that is no integer, or none if it is too large. A significand of 64 bits
is zero after three divisions by the largest power. -/
def real? (parts : NumberParts) : Option Double :=
  let (whole, dropped) := gather significandLimit 0 parts.whole
  let fraction := parts.fraction.getD []
  let (significand, ignored) := gather significandLimit whole fraction
  let shift : Int := dropped - (fraction.length - ignored : Nat)
  let (exponent, endless) := parts.writtenExponent
  if endless then
    if significand ≠ 0 ∧ 0 ≤ exponent then none else some (Double.assemble parts.negative 0)
  else scale? parts.negative 3 (.nearest false significand 1) (shift + exponent)

/-- The value of a number. A negative zero is no integer, as integers have no sign of zero. -/
def value? (parts : NumberParts) : Option Json :=
  let (whole, dropped) := gather significandLimit 0 parts.whole
  if parts.fraction = none ∧ parts.exponent = none ∧ dropped = 0 then
    if ¬ parts.negative then some (.integer whole)
    else if whole = 0 ∨ -(whole : Int) < Int64.minValue.toInt then
      some (.real (.nearest true whole 1))
    else some (.integer (-(whole : Int)))
  else parts.real?.map .real

end NumberParts

end SqlLedger.Json
