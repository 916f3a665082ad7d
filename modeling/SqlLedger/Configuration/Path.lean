/-
Names as paths.

The name of an entry may lead into the value of a field: `node_port.low` is the member `low` of
`node_port`, and `node_port[0]` is its first element. A name that is no such path as a whole stands
for itself, so every name has a path and no name is refused.
-/

import SqlLedger.Text.Numeral

namespace SqlLedger.Configuration

/-- A step into a value. -/
inductive Step
  | member (name : String)
  /-- Negative positions count from the end. -/
  | element (position : Int)
  deriving DecidableEq, Repr

/-- A path: a name, and the steps into its value. -/
structure Path where
  root : String
  steps : List Step
  deriving DecidableEq, Repr

namespace Path

/-- Characters of the names within a path. -/
def isNameChar (char : Char) : Bool :=
  char.isAlphanum || char = ' ' || char = '_' || char = '-'

/-- Takes the name at the front of a text. -/
def takeName? (chars : List Char) : Option (String × List Char) :=
  match chars.takeWhile isNameChar with
  | [] => none
  | name => some (String.ofList name, chars.dropWhile isNameChar)

/-- Blanks around a position. -/
def isBlank (char : Char) : Bool :=
  char = ' ' || char = '\t'

/-- Takes a position, which 64 bits have to hold, with its closing bracket. -/
def takePosition? (chars : List Char) : Option (Int × List Char) :=
  let written := (chars.dropWhile isBlank).takeWhile fun char => char.isDigit || char = '-'
  let rest := ((chars.dropWhile isBlank).drop written.length).dropWhile isBlank
  match Text.readSigned64 (String.ofList written), rest with
  | .ok position, ']' :: rest => some (position.toInt, rest)
  | _, _ => none

/-- Takes the step at the front of a text. -/
def takeStep? : List Char → Option (Step × List Char)
  | '.' :: rest => (takeName? rest).map fun (name, rest) => (.member name, rest)
  | '[' :: rest => (takePosition? rest).map fun (position, rest) => (.element position, rest)
  | _ => none

/-- Reads steps up to the end of a text. -/
def readSteps? : (fuel : Nat) → List Char → Option (List Step)
  | _, [] => some []
  | 0, _ => none
  | fuel + 1, chars => do
    let (step, rest) ← takeStep? chars
    return step :: (← readSteps? fuel rest)

/-- Reads a path; every step takes a character. -/
def read? (name : String) : Option Path := do
  let (root, rest) ← takeName? name.toList
  return ⟨root, ← readSteps? rest.length rest⟩

/-- The path that a name stands for. -/
def ofName (name : String) : Path :=
  (read? name).getD ⟨name, []⟩

end Path

end SqlLedger.Configuration
