/-
Doubles from decimal texts.

A decimal is digits with a point among them or without, and an exponent may follow; digits may be
missing on one side of the point. Infinities and the value that is no number have names, whose case
does not matter. Every text of that form denotes the double nearest to it, which is an infinity if
the decimal is too large.
-/

import SqlLedger.Number.Double
import SqlLedger.Text.CodePoint

namespace SqlLedger.Double

/-- Takes the sign in front of a number. -/
def takeSign : List Char → Bool × List Char
  | '-' :: rest => (true, rest)
  | '+' :: rest => (false, rest)
  | rest => (false, rest)

/-- Reads an exponent, which has one digit at least. -/
def readExponent? (chars : List Char) : Option Int := do
  let (negative, digits) := takeSign chars
  if digits.isEmpty then none
  let magnitude ← Text.numberIn? 10 digits
  return if negative then -(magnitude : Int) else magnitude

/-- Reads the digits of a decimal and its exponent. -/
def readDecimal? (negative : Bool) (chars : List Char) : Option Double := do
  let mantissa := chars.takeWhile fun char => char ≠ 'e' && char ≠ 'E'
  let written := chars.drop mantissa.length
  let whole := mantissa.takeWhile (· ≠ '.')
  let fraction := mantissa.drop (whole.length + 1)
  if whole.isEmpty ∧ fraction.isEmpty then none
  let significand ← Text.numberIn? 10 (whole ++ fraction)
  let exponent ← if written.isEmpty then some 0 else readExponent? written.tail
  return ofDecimal negative significand (exponent - (fraction.length : Int))

/-- Reads a double. -/
def read? (chars : List Char) : Option Double :=
  let (negative, unsigned) := takeSign chars
  match String.ofList (unsigned.map Char.toLower) with
  | "inf" | "infinity" => some (infinity negative)
  | "nan" => some notANumber
  | _ => readDecimal? negative unsigned

end SqlLedger.Double
