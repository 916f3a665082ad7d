/-
JSON values.

An object keeps its members in the order in which they stand, each name once. A number without
fraction and exponent is an integer as long as a 64-bit word can hold it; every other number is a
double.
-/

import SqlLedger.Number.Double

namespace SqlLedger

/-- A JSON value. -/
inductive Json
  | null
  | boolean (value : Bool)
  | integer (value : Int)
  | real (value : Double)
  | text (value : String)
  | list (items : List Json)
  | object (members : List (String × Json))

/-- Adds a member to an object; a later member replaces an earlier one of the same name. -/
def Json.putMember (name : String) (value : Json) (members : List (String × Json)) :
    List (String × Json) :=
  members.filter (·.1 ≠ name) ++ [(name, value)]

end SqlLedger
