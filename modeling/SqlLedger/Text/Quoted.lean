/-
Texts inside diagnostics.

A diagnostic shows a text between double quotes in such a way that the quotes end where the text
ends and nothing in it disturbs a terminal. The quote and the backslash are escaped by a
backslash, the four control characters with a short name by that name, and every other character
that leaves no mark of its own by its code point in braces.
-/

import SqlLedger.Bytes
import SqlLedger.Text.Shown

namespace SqlLedger.Text

/-- A code point spelled in braces, in lower-case hexadecimal without leading zeros. -/
def codePointEscape (char : Char) : List Char :=
  ['\\', 'u', '\x7b'] ++ Nat.toDigits 16 char.toNat ++ ['\x7d']

/-- How one character is written between double quotes. -/
def quoteChar (char : Char) : List Char :=
  match char with
  | '\x00' => ['\\', '0']
  | '\t' => ['\\', 't']
  | '\n' => ['\\', 'n']
  | '\r' => ['\\', 'r']
  | '"' => ['\\', '"']
  | '\\' => ['\\', '\\']
  | char => if isShown char then [char] else codePointEscape char

/-- A text between double quotes, as diagnostics show it. -/
def quoted (text : String) : String :=
  String.ofList ('"' :: text.toList.flatMap quoteChar ++ ['"'])

end SqlLedger.Text
