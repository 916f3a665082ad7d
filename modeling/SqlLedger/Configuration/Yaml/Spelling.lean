/-
What YAML scalars denote.

A plain scalar gets its type from its spelling, unless a tag asks for a type, and a scalar between
quotes or in a block is a text. A scalar whose spelling does not go with its tag denotes nothing.

YAML has words of its own for infinities and for no number, with a point in front. They are doubles
by their spelling, but settings read the spelling of a double once more, as a double is written
elsewhere, and stop at these words. So they have a type and no value.
-/

import SqlLedger.Configuration.Value
import SqlLedger.Configuration.Yaml.Token
import SqlLedger.Number.Reading

namespace SqlLedger.Configuration.Yaml

/-- Reads digits in a base, behind a sign if there is one, as a 64-bit integer. -/
def based? (base : Nat) (chars : List Char) : Option Value := do
  let (negative, digits) := Double.takeSign chars
  if digits.isEmpty then none
  let magnitude ← Text.numberIn? base digits
  (Text.signed64? (if negative then -(magnitude : Int) else magnitude)).map .integer

/-- Reads a decimal 64-bit integer. -/
def integer? (chars : List Char) : Option Value :=
  match Text.readSigned64 (String.ofList chars) with
  | .ok value => some (.integer value)
  | .error _ => none

/-- Reads a double. -/
def real? (chars : List Char) : Option Value :=
  (Double.read? chars).map .real

/-- The words for infinities and for no number that stand for doubles here only. -/
def pointedWords : List String :=
  [".inf", ".Inf", ".INF", "+.inf", "+.Inf", "+.INF", "-.inf", "-.Inf", "-.INF", ".nan", ".NAN"]

/-- A plain scalar that is a double without a value. -/
def isPointedWord (tag : Option Tag) (chars : List Char) : Bool :=
  (tag = none || tag = some .real) && pointedWords.contains (String.ofList chars)

/-- Reads what has a spelling of its own: a number in another base, a number with a plus sign in
front, nothing, and a truth value. -/
def special? (chars : List Char) : Option Value :=
  match chars with
  | '0' :: 'x' :: rest => based? 16 rest
  | '0' :: 'o' :: rest => based? 8 rest
  | '+' :: rest => integer? rest
  | chars =>
    match String.ofList chars with
    | "~" | "null" => some .null
    | "true" => some (.boolean true)
    | "false" => some (.boolean false)
    | _ => none

/-- The value of a plain scalar without a tag. -/
def plainValue (chars : List Char) : Value :=
  ((special? chars).or ((integer? chars).or (real? chars))).getD (.text (String.ofList chars))

/-- The value of a plain scalar with a tag, if its spelling goes with it. -/
def taggedValue? (tag : Tag) (chars : List Char) : Option Value :=
  let text := String.ofList chars
  match tag with
  | .boolean =>
    if text = "true" then some (.boolean true)
    else if text = "false" then some (.boolean false)
    else none
  | .integer => integer? chars
  | .real => real? chars
  | .null => if text = "~" ∨ text = "null" then some .null else none
  | .other => some (.text text)

end SqlLedger.Configuration.Yaml
