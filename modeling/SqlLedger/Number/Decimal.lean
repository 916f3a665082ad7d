/-
Doubles as decimals.

Every finite double has shortest decimals: those with the fewest digits among the decimals that
are nearer to it than to any other double. `shortest` finds the one closest to the double. For
one, two, up to seventeen digits it looks at the two neighbours of the double on that decimal grid
and takes the first grid with a hit; a grid point in the interval of the double puts one of these
two neighbours in it as well, and seventeen digits always hit. Which neighbour an exact tie takes
is a choice of the output format.

`DecimalLayout` collects such choices, and `DecimalLayout.text` writes a double by them.
-/

import SqlLedger.Number.Double

namespace SqlLedger

/-- A decimal without a sign: `coefficient * 10 ^ exponent`. -/
structure Decimal where
  coefficient : Nat
  exponent : Int
  deriving DecidableEq, Repr

namespace Decimal

/-- How many decimal digits a number has. -/
def digitCount (value : Nat) : Nat :=
  (Nat.toDigits 10 value).length

/-- Takes up to `count` zeros off the end of a coefficient. -/
def dropZeros : Nat → Decimal → Decimal
  | 0, decimal => decimal
  | count + 1, decimal =>
    if decimal.coefficient ≠ 0 ∧ decimal.coefficient % 10 = 0 then
      dropZeros count ⟨decimal.coefficient / 10, decimal.exponent + 1⟩
    else decimal

/-- Which of two equally near decimals is taken. -/
inductive Tie
  /-- The larger one. -/
  | up
  /-- The one whose coefficient is even. -/
  | even
  deriving DecidableEq, Repr

/-- The decimals that read back as a positive double, as quarters of the unit of its last place:
`low`, the double itself and `high` are multiples of `2 ^ exponent`. The ends belong to the
interval when the significand is even. -/
structure Interval where
  low : Nat
  middle : Nat
  high : Nat
  exponent : Int
  closed : Bool
  deriving Repr

/-- The interval of a positive double. Below a power of two the next double is half as far. -/
def Interval.of (significand : Nat) (exponent : Int) : Interval where
  low :=
    if significand = Double.leadingBit ∧ exponent ≠ Double.leastExponent then 4 * significand - 1
    else 4 * significand - 2
  middle := 4 * significand
  high := 4 * significand + 2
  exponent := exponent - 2
  closed := significand % 2 = 0

/-- The two neighbours of a double on the grid of multiples of `10 ^ exponent`, and of these the
one that is taken, if any lies in the interval. Both sides of each comparison are multiplied by
what makes them whole. -/
def onGrid? (interval : Interval) (tie : Tie) (exponent : Int) : Option Decimal :=
  let unit := Nat.pow 10 exponent.toNat * Nat.pow 2 (-interval.exponent).toNat
  let scale := Nat.pow 2 interval.exponent.toNat * Nat.pow 10 (-exponent).toNat
  let middle := interval.middle * scale
  let inside (coefficient : Nat) : Bool :=
    if interval.closed then
      interval.low * scale ≤ coefficient * unit && coefficient * unit ≤ interval.high * scale
    else interval.low * scale < coefficient * unit && coefficient * unit < interval.high * scale
  let below := middle / unit
  let above := below + 1
  let belowGap := middle - below * unit
  let aboveGap := above * unit - middle
  let takesAbove :=
    aboveGap < belowGap || (aboveGap = belowGap && (tie = .up || below % 2 = 1))
  match inside below, inside above with
  | false, false => none
  | true, false => some ⟨below, exponent⟩
  | false, true => some ⟨above, exponent⟩
  | true, true => some ⟨if takesAbove then above else below, exponent⟩

/-- The exponent of the power of ten above a positive double: it lies below `10 ^ magnitude` and
not below `10 ^ (magnitude - 1)`. No double is so small that its first digit is not among the
first four hundred behind the point. -/
def magnitude (significand : Nat) (exponent : Int) : Int :=
  let scaled :=
    significand * Nat.pow 2 exponent.toNat * Nat.pow 10 400 / Nat.pow 2 (-exponent).toNat
  (digitCount scaled : Int) - 400

/-- The shortest decimal that reads back as a positive double, the nearest of these. -/
def shortest (tie : Tie) (significand : Nat) (exponent : Int) : Decimal :=
  let interval := Interval.of significand exponent
  let magnitude := magnitude significand exponent
  let found := (List.range 17).findSome? fun fewer =>
    onGrid? interval tie (magnitude - (fewer + 1 : Nat))
  dropZeros 400 (found.getD ⟨significand * Nat.pow 2 exponent.toNat, 0⟩)

end Decimal

/-! ### Layouts -/

/-- The choices of a format that writes doubles. -/
structure DecimalLayout where
  /-- Which of two equally near decimals is taken. -/
  tie : Decimal.Tie
  /-- The powers of ten of the first digit, from the least to the greatest, for which no exponent
  is written; without bounds an exponent is never written. -/
  positional : Option (Int × Int)
  /-- What follows a whole number. -/
  wholeEnding : String
  /-- What stands before an exponent that is not negative. -/
  exponentPlus : String
  notANumber : String
  infinity : String
  negativeInfinity : String

namespace DecimalLayout

/-- Digits with the point at its place. -/
def placePoint (layout : DecimalLayout) (digits : List Char) (exponent : Int) : List Char :=
  let point := (digits.length : Int) + exponent
  if 0 ≤ exponent then
    digits ++ List.replicate exponent.toNat '0' ++ layout.wholeEnding.toList
  else if 0 < point then digits.take point.toNat ++ '.' :: digits.drop point.toNat
  else '0' :: '.' :: List.replicate (-point).toNat '0' ++ digits

/-- Digits with the point behind the first one, and an exponent. -/
def placeExponent (layout : DecimalLayout) (digits : List Char) (first : Int) : List Char :=
  let fraction := digits.drop 1
  let exponent := Nat.toDigits 10 first.natAbs
  digits.take 1 ++ (if fraction.isEmpty then [] else '.' :: fraction) ++
    'e' :: (if 0 ≤ first then layout.exponentPlus.toList else ['-']) ++ exponent

/-- A decimal without its sign. -/
def unsigned (layout : DecimalLayout) (decimal : Decimal) : List Char :=
  let digits := Nat.toDigits 10 decimal.coefficient
  let first := (digits.length : Int) + decimal.exponent - 1
  match layout.positional with
  | none => layout.placePoint digits decimal.exponent
  | some (least, greatest) =>
    if least ≤ first ∧ first ≤ greatest then layout.placePoint digits decimal.exponent
    else layout.placeExponent digits first

/-- The text of a double. Zero keeps its sign. -/
def text (layout : DecimalLayout) (number : Double) : String :=
  match number.view with
  | .notANumber => layout.notANumber
  | .infinite negative => if negative then layout.negativeInfinity else layout.infinity
  | .finite negative significand exponent =>
    let decimal :=
      if significand = 0 then ⟨0, 0⟩ else Decimal.shortest layout.tie significand exponent
    String.ofList ((if negative then ['-'] else []) ++ layout.unsigned decimal)

/-- The plain layout never writes an exponent and writes whole numbers without a point. -/
def plain : DecimalLayout where
  tie := .up
  positional := none
  wholeEnding := ""
  exponentPlus := ""
  notANumber := "NaN"
  infinity := "inf"
  negativeInfinity := "-inf"

end DecimalLayout

end SqlLedger
