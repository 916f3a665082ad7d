/-
Double-precision numbers, kept as their 64 bits.

Amounts travel as the eight octets of an IEEE 754 double and have to arrive with every bit as it
was sent, the payload of a NaN included, so the type is the word itself and equality is equality
of words. What a word denotes is the second half of this file: `view` splits it into sign,
significand and exponent, and `nearest` goes back, from an exact quotient to the double nearest
to it, a half going to the even significand.
-/

namespace SqlLedger

/-- A double-precision number, given by its bits. -/
structure Double where
  /-- Sign, eleven bits of exponent, fifty-two bits of significand. -/
  bits : UInt64
  deriving DecidableEq, Repr, Inhabited

namespace Double

/-! ### What the bits denote -/

/-- What a double denotes. A finite one is `significand * 2 ^ exponent` with its sign; zero has
significand zero, and keeps its sign too. -/
inductive View
  | notANumber
  | infinite (negative : Bool)
  | finite (negative : Bool) (significand : Nat) (exponent : Int)
  deriving DecidableEq, Repr

/-- The exponent of the smallest double above zero. -/
def leastExponent : Int := -1074

/-- The first significand that a double of full precision has. -/
def leadingBit : Nat := 0x10000000000000

/-- The sign as the highest bit of the word. -/
def signBit (negative : Bool) : Nat :=
  if negative then 0x8000000000000000 else 0

/-- Reads the three fields of the word. A zero exponent field marks the doubles below full
precision, which have no hidden leading bit; a full one marks infinities and NaNs. -/
def view (number : Double) : View :=
  let word := number.bits.toNat
  let negative := signBit true ≤ word
  let exponent : Nat := word / leadingBit % 2048
  let fraction := word % leadingBit
  if exponent = 2047 then
    if fraction = 0 then .infinite negative else .notANumber
  else if exponent = 0 then
    .finite negative fraction leastExponent
  else
    .finite negative (leadingBit + fraction) (leastExponent + (exponent : Int) - 1)

/-! ### The nearest double -/

/-- The lower sixty-three bits of an infinity. -/
def infinityBits : Nat := 2047 * leadingBit

/-- Assembles a word whose lower sixty-three bits are given; a value too large for them is an
infinity. -/
def assemble (negative : Bool) (magnitude : Nat) : Double :=
  ⟨UInt64.ofNat (signBit negative + min magnitude infinityBits)⟩

/-- An infinity. -/
def infinity (negative : Bool) : Double :=
  assemble negative infinityBits

/-- A double that is no number. -/
def notANumber : Double :=
  ⟨UInt64.ofNat (infinityBits + leadingBit / 2)⟩

/-- The integer nearest to a quotient, a half going to the even one. -/
def divideToEven (numerator denominator : Nat) : Nat :=
  let quotient := numerator / denominator
  let twice := 2 * (numerator % denominator)
  if denominator < twice ∨ (twice = denominator ∧ quotient % 2 = 1) then quotient + 1
  else quotient

/-- A quotient divided by `2 ^ exponent`, again as a quotient. -/
def scaleDown (numerator denominator : Nat) (exponent : Int) : Nat × Nat :=
  (numerator * Nat.pow 2 (-exponent).toNat, denominator * Nat.pow 2 exponent.toNat)

/-- The exponent at which a positive quotient has a significand of full precision, or the least
exponent where it has none. Logarithms bound the exponent to one of two, and the larger is taken
if the significand keeps its leading bit there. -/
def exponentFor (numerator denominator : Nat) : Int :=
  let larger : Int := (numerator.log2 : Int) - denominator.log2 - 52
  let (above, below) := scaleDown numerator denominator larger
  let fitting := if leadingBit * below ≤ above then larger else larger - 1
  max fitting leastExponent

/-- The double nearest to a quotient with the given sign, a half going to the even significand.
The significand and the exponent field lie side by side in the word, so a significand that is
rounded up to the next power of two carries into the exponent by itself. -/
def nearest (negative : Bool) (numerator denominator : Nat) : Double :=
  if numerator = 0 then
    assemble negative 0
  else
    let exponent := exponentFor numerator denominator
    let (above, below) := scaleDown numerator denominator exponent
    assemble negative
      ((exponent - leastExponent).toNat * leadingBit + divideToEven above below)

/-! ### Arithmetic -/

/-- Whether a double is an infinity. -/
def isInfinite (number : Double) : Bool :=
  match number.view with
  | .infinite _ => true
  | _ => false

/-- Whether a double is a zero of either sign. -/
def isZero (number : Double) : Bool :=
  match number.view with
  | .finite _ 0 _ => true
  | _ => false

/-- The double of the given sign and the same magnitude. -/
def withSign (number : Double) (negative : Bool) : Double :=
  assemble negative (number.bits.toNat % signBit true)

/-- The double nearest to `numerator / denominator * 2 ^ exponent`. -/
def nearestScaled (negative : Bool) (numerator denominator : Nat) (exponent : Int) : Double :=
  nearest negative (numerator * Nat.pow 2 exponent.toNat)
    (denominator * Nat.pow 2 (-exponent).toNat)

/-- The product of the magnitudes of two finite doubles, rounded once. -/
def multiply (left right : Double) : Double :=
  match left.view, right.view with
  | .finite _ leftSignificand leftExponent, .finite _ rightSignificand rightExponent =>
    nearestScaled false (leftSignificand * rightSignificand) 1 (leftExponent + rightExponent)
  | _, _ => left

/-- The quotient of the magnitudes of a finite double and one that is not zero either, rounded
once. -/
def divide (left right : Double) : Double :=
  match left.view, right.view with
  | .finite _ leftSignificand leftExponent, .finite _ rightSignificand rightExponent =>
    nearestScaled false leftSignificand rightSignificand (leftExponent - rightExponent)
  | _, _ => left

/-- The double nearest to a decimal, `significand * 10 ^ exponent`. Decimals far outside the range
of doubles are not computed. -/
def ofDecimal (negative : Bool) (significand : Nat) (exponent : Int) : Double :=
  let first := (significand.log2 : Int) / 3 + exponent
  if significand = 0 ∨ first < -400 then assemble negative 0
  else if 400 < exponent then infinity negative
  else nearest negative (significand * Nat.pow 10 exponent.toNat) (Nat.pow 10 (-exponent).toNat)

/-! ### Integers from doubles -/

/-- The integer nearest to a double, a half going away from zero, held to the range from `least`
to `greatest`; no number at all counts as zero. -/
def roundHeld (least greatest : Int) (number : Double) : Int :=
  match number.view with
  | .notANumber => 0
  | .infinite negative => if negative then least else greatest
  | .finite negative significand exponent =>
    let magnitude : Int :=
      if 0 ≤ exponent then significand * Nat.pow 2 exponent.toNat
      else
        let unit := Nat.pow 2 (-exponent).toNat
        (2 * significand + unit) / (2 * unit)
    max least (min greatest (if negative then -magnitude else magnitude))

end Double

end SqlLedger
