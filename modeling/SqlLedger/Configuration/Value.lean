/-
Values of settings, before a field gives them a type.

A settings file is flat: every field is a scalar. Of a list or a table it therefore only matters
that it stands there, and of a table also whether it is empty, since an empty one changes nothing.
`Entries` are the top-level entries of a file, each name once.
-/

import SqlLedger.Number.Double
import SqlLedger.Text.Numeral

namespace SqlLedger.Configuration

/-- A value as a settings file or the environment gives it. -/
inductive Value
  | null
  | boolean (value : Bool)
  | integer (value : Int64)
  | real (value : Double)
  | text (value : String)
  | list
  | table (isEmpty : Bool)
  deriving DecidableEq, Repr

/-- An integer, as a double where 64 bits do not hold it. -/
def Value.ofInt (value : Int) : Value :=
  match Text.signed64? value with
  | some word => .integer word
  | none => .real (.nearest (value < 0) value.natAbs 1)

/-- Named values. -/
abbrev Entries := List (String × Value)

namespace Entries

/-- The value of a name. -/
def find? (entries : Entries) (name : String) : Option Value :=
  (List.find? (fun entry => entry.1 = name) entries).map (·.2)

/-- Adds an entry; a later one replaces an earlier one of the same name. -/
def put (entries : Entries) (name : String) (value : Value) : Entries :=
  entries.filter (·.1 ≠ name) ++ [(name, value)]

end Entries

end SqlLedger.Configuration
