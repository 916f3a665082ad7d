/-
Numbers of TOML.

Integers are written in four bases, doubles with a point or an exponent, and both with single
underscores between their digits. A number may extend over several tokens, as a point and a plus
sign are tokens of their own. Integers have to fit into 64 bits, and decimals into the range of
doubles.
-/

import SqlLedger.Configuration.Value
import SqlLedger.Configuration.Toml.Token

namespace SqlLedger.Configuration.Toml

/-! ### Digits -/

/-- Takes the digits that follow others; an underscore stands between two of them only. -/
def takeMore? (base : Nat) : List Char → Option (List Nat × List Char)
  | [] => some ([], [])
  | ['_'] => none
  | '_' :: char :: rest =>
    match Text.digitIn? base char with
    | some digit => (takeMore? base rest).map fun (digits, rest) => (digit :: digits, rest)
    | none => none
  | char :: rest =>
    match Text.digitIn? base char with
    | some digit => (takeMore? base rest).map fun (digits, rest) => (digit :: digits, rest)
    | none => some ([], char :: rest)

/-- Takes digits, of which there is one at least. -/
def takeDigits? (base : Nat) : List Char → Option (List Nat × List Char)
  | [] => none
  | char :: rest => do
    let digit ← Text.digitIn? base char
    let (digits, rest) ← takeMore? base rest
    return (digit :: digits, rest)

/-- Takes decimal digits in front of a point. No zero stands before other digits. -/
def takeWhole? (chars : List Char) : Option (List Nat × List Char) :=
  match takeDigits? 10 chars with
  | some (0 :: _ :: _, _) => none
  | taken => taken

/-- Takes the sign of a word. -/
def takeSign : List Char → Bool × List Char
  | '-' :: rest => (true, rest)
  | rest => (false, rest)

/-! ### Integers -/

/-- An integer, if 64 bits hold it. -/
def integer? (value : Int) : Option Value :=
  (Text.signed64? value).map .integer

/-- Reads an integer that has neither sign nor zeros to care for. -/
def based? (base : Nat) (chars : List Char) : Option Value :=
  match takeDigits? base chars with
  | some (digits, []) => integer? (Text.ofDigits base digits)
  | _ => none

/-- Reads a decimal integer. -/
def decimal? (word : List Char) : Option Value :=
  let (negative, unsigned) := takeSign word
  match takeWhole? unsigned with
  | some (digits, []) =>
    let magnitude : Int := Text.ofDigits 10 digits
    integer? (if negative then -magnitude else magnitude)
  | _ => none

/-! ### Doubles -/

/-- Reads an exponent, which follows the digits of a word. A plus sign in it is a token of its own.
-/
def readExponent? (rest : List Token) : List Char → Option (Int × List Token)
  | [] => some (0, rest)
  | [mark] =>
    match rest with
    | .plus :: .word digits :: rest =>
      match takeDigits? 10 digits with
      | some (digits, []) =>
        if mark = 'e' ∨ mark = 'E' then some ((Text.ofDigits 10 digits : Int), rest) else none
      | _ => none
    | _ => none
  | mark :: written =>
    let (negative, unsigned) := takeSign written
    match takeDigits? 10 unsigned with
    | some (digits, []) =>
      let magnitude : Int := Text.ofDigits 10 digits
      if mark = 'e' ∨ mark = 'E' then some (if negative then -magnitude else magnitude, rest)
      else none
    | _ => none

/-- Takes the digits behind the point, which stand in a word of their own, or what stands behind
the digits in front of it if there is no point. -/
def takeBehindPoint? (suffix : List Char) : Option (List Char) → Option (List Nat × List Char)
  | none => some ([], suffix)
  | some behind => if suffix.isEmpty then takeDigits? 10 behind else none

/-- Reads a double, given its first word and the one behind the point, if there is a point. -/
def real? (word : List Char) (behind : Option (List Char)) (rest : List Token) :
    Option (Value × List Token) := do
  let (negative, unsigned) := takeSign word
  let (whole, suffix) ← takeWhole? unsigned
  let (fraction, suffix) ← takeBehindPoint? suffix behind
  let (exponent, rest) ← readExponent? rest suffix
  let value := Double.ofDecimal negative (Text.ofDigits 10 (whole ++ fraction))
    (exponent - (fraction.length : Int))
  if value.isInfinite then none else some (.real value, rest)

/-- The doubles that have names. -/
def named? (word : List Char) : Option Value :=
  match word with
  | ['i', 'n', 'f'] => some (.real (.infinity false))
  | ['-', 'i', 'n', 'f'] => some (.real (.infinity true))
  | ['n', 'a', 'n'] | ['-', 'n', 'a', 'n'] => some (.real .notANumber)
  | _ => none

/-! ### All numbers -/

/-- Reads the number that a word begins. -/
def readNumber? (word : List Char) (rest : List Token) : Option (Value × List Token) :=
  match word with
  | '0' :: 'x' :: digits => (based? 16 digits).map (·, rest)
  | '0' :: 'o' :: digits => (based? 8 digits).map (·, rest)
  | '0' :: 'b' :: digits => (based? 2 digits).map (·, rest)
  | word =>
    if 'e' ∈ word ∨ 'E' ∈ word then real? word none rest
    else
      match rest with
      | .period :: .word behind :: rest => real? word (some behind) rest
      | .period :: _ => none
      | rest => ((named? word).or (decimal? word)).map (·, rest)

end SqlLedger.Configuration.Toml
