/-
Printing JSON.

Values are printed with each item and each member on a line of its own, indented by two blanks for
each level. Inside a text the quote, the backslash and the control characters are escaped, so a
text never ends early and never holds the end of a line; everything else stands as it is. Doubles
have the fewest digits that read back, always a point or an exponent, and become null where JSON
has no number for them.
-/

import SqlLedger.Bytes
import SqlLedger.Json.Value
import SqlLedger.Number.Decimal

namespace SqlLedger.Json

/-- Amounts show an exponent from `10 ^ 16` on and below `10 ^ -5`, and an even digit decides a
tie. -/
def amountLayout : DecimalLayout where
  tie := .even
  positional := some (-5, 15)
  wholeEnding := ".0"
  exponentPlus := "+"
  notANumber := "null"
  infinity := "null"
  negativeInfinity := "null"

/-- How one character is written in a text. -/
def escapeChar (char : Char) : List Char :=
  match char with
  | '"' => ['\\', '"']
  | '\\' => ['\\', '\\']
  | '\x08' => ['\\', 'b']
  | '\x0c' => ['\\', 'f']
  | '\n' => ['\\', 'n']
  | '\r' => ['\\', 'r']
  | '\t' => ['\\', 't']
  | char =>
    if char < ' ' then
      ['\\', 'u', '0', '0', Bytes.hexDigit (char.toNat / 16), Bytes.hexDigit (char.toNat % 16)]
    else [char]

/-- A text between quotes. -/
def printText (text : String) : List Char :=
  '"' :: text.toList.flatMap escapeChar ++ ['"']

/-- The end of a line and the indentation of the next one. -/
def newLine (level : Nat) : List Char :=
  '\n' :: List.replicate (2 * level) ' '

mutual

/-- Prints a value at a level of indentation. -/
def printAt (level : Nat) : Json → List Char
  | .null => "null".toList
  | .boolean value => if value then "true".toList else "false".toList
  | .integer value => (toString value).toList
  | .real value => (amountLayout.text value).toList
  | .text value => printText value
  | .list [] => ['[', ']']
  | .list (item :: items) =>
    '[' :: newLine (level + 1) ++ printAt (level + 1) item ++ printItems level items
  | .object [] => ['\x7b', '\x7d']
  | .object ((name, value) :: members) =>
    '\x7b' :: newLine (level + 1) ++ printText name ++ [':', ' '] ++ printAt (level + 1) value
      ++ printMembers level members

/-- Prints the items behind the first one, and the end of the list. -/
def printItems (level : Nat) : List Json → List Char
  | [] => newLine level ++ [']']
  | item :: items =>
    ',' :: newLine (level + 1) ++ printAt (level + 1) item ++ printItems level items

/-- Prints the members behind the first one, and the end of the object. -/
def printMembers (level : Nat) : List (String × Json) → List Char
  | [] => newLine level ++ ['\x7d']
  | (name, value) :: members =>
    ',' :: newLine (level + 1) ++ printText name ++ [':', ' '] ++ printAt (level + 1) value
      ++ printMembers level members

end

/-- A value as a text. -/
def print (value : Json) : String :=
  String.ofList (printAt 0 value)

end SqlLedger.Json
