/-
Texts inside SQL literals.

Between single quotes a statement shows a text with seven characters escaped by a backslash: the
backslash itself, both quotes, and the four control characters that statements and logs do not
carry raw.
-/

namespace SqlLedger.Literal

/-- The character that stands behind the backslash for an escaped one. -/
def escapeLetter? (char : Char) : Option Char :=
  match char with
  | '\\' => some '\\'
  | '\'' => some '\''
  | '"' => some '"'
  | '\x00' => some '0'
  | '\n' => some 'n'
  | '\r' => some 'r'
  | '\x1a' => some 'Z'
  | _ => none

/-- How one character is written inside a literal. -/
def escapeChar (char : Char) : List Char :=
  match escapeLetter? char with
  | some letter => ['\\', letter]
  | none => [char]

/-- A text as it stands between the quotes of a literal. -/
def escape (text : String) : String :=
  String.ofList (text.toList.flatMap escapeChar)

end SqlLedger.Literal
