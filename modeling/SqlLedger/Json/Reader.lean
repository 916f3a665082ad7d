/-
Reading JSON.

Reading is strict: blanks are the four of the format, texts hold no raw control characters and no
half of a surrogate pair, lists and objects end without a comma, nothing but blanks follows the
value, and values are nested less than 128 deep. The fuel of the mutual functions is a bound on
the number of steps; twice the length of the text is enough, as each step but the last takes a
character or closes a list.
-/

import SqlLedger.Json.Number
import SqlLedger.Text.CodePoint

namespace SqlLedger.Json

/-- The blanks of the format. -/
def isBlank (char : Char) : Bool :=
  char = ' ' || char = '\n' || char = '\r' || char = '\t'

/-- Drops the blanks at the front. -/
def skipBlanks (chars : List Char) : List Char :=
  chars.dropWhile isBlank

/-! ### Texts -/

/-- The character that a letter behind a backslash stands for. -/
def ofEscapeLetter? (letter : Char) : Option Char :=
  match letter with
  | '"' => some '"'
  | '\\' => some '\\'
  | '/' => some '/'
  | 'b' => some '\x08'
  | 'f' => some '\x0c'
  | 'n' => some '\n'
  | 'r' => some '\r'
  | 't' => some '\t'
  | _ => none

/-- Units of the first half of a surrogate pair. -/
def isHighSurrogate (unit : Nat) : Bool :=
  0xD800 ≤ unit && unit ≤ 0xDBFF

/-- Units of the second half of a surrogate pair. -/
def isLowSurrogate (unit : Nat) : Bool :=
  0xDC00 ≤ unit && unit ≤ 0xDFFF

/-- Reads the inside of a text up to its closing quote. Whether raw control characters may stand in
it is up to the format. -/
def readText? (allowsControls : Bool) : List Char → Option (List Char × List Char)
  | [] => none
  | '"' :: rest => some ([], rest)
  | '\\' :: 'u' :: a :: b :: c :: d :: rest =>
    match Text.numberIn? 16 [a, b, c, d] with
    | none => none
    | some unit =>
      if isHighSurrogate unit then
        match rest with
        | '\\' :: 'u' :: e :: f :: g :: h :: rest =>
          match Text.numberIn? 16 [e, f, g, h] with
          | none => none
          | some low =>
            if isLowSurrogate low then
              let char := Char.ofNat (0x10000 + (unit - 0xD800) * 1024 + (low - 0xDC00))
              (readText? allowsControls rest).map fun (inside, rest) => (char :: inside, rest)
            else none
        | _ => none
      else if isLowSurrogate unit then none
      else
        (readText? allowsControls rest).map fun (inside, rest) => (Char.ofNat unit :: inside, rest)
  | '\\' :: letter :: rest =>
    match ofEscapeLetter? letter with
    | none => none
    | some char => (readText? allowsControls rest).map fun (inside, rest) => (char :: inside, rest)
  | char :: rest =>
    if char = '\\' ∨ (char < ' ' ∧ !allowsControls) then none
    else (readText? allowsControls rest).map fun (inside, rest) => (char :: inside, rest)

/-! ### Values -/

/-- How deep values may be nested. -/
def depthLimit : Nat := 127

/-- Reads a number. -/
def readNumber? (chars : List Char) : Option (Json × List Char) := do
  let (parts, rest) ← NumberParts.read? chars
  return (← parts.value?, rest)

/-- Takes a word at the front of a text. -/
def takeWord? (word : String) (value : Json) (chars : List Char) : Option (Json × List Char) :=
  if word.toList.isPrefixOf chars then some (value, chars.drop word.length) else none

mutual

/-- Reads the value at the front of a text that starts with no blank. -/
def readValue? : (fuel depth : Nat) → List Char → Option (Json × List Char)
  | 0, _, _ => none
  | fuel + 1, depth, chars =>
    match chars with
    | [] => none
    | '"' :: rest =>
      (readText? false rest).map fun (inside, rest) => (.text (String.ofList inside), rest)
    | '[' :: rest =>
      match depth with
      | 0 => none
      | depth + 1 =>
        match skipBlanks rest with
        | ']' :: rest => some (.list [], rest)
        | rest => (readItems? fuel depth rest).map fun (items, rest) => (.list items, rest)
    | '\x7b' :: rest =>
      match depth with
      | 0 => none
      | depth + 1 =>
        match skipBlanks rest with
        | '\x7d' :: rest => some (.object [], rest)
        | rest =>
          (readMembers? fuel depth [] rest).map fun (members, rest) => (.object members, rest)
    | 'n' :: _ => takeWord? "null" .null chars
    | 't' :: _ => takeWord? "true" (.boolean true) chars
    | 'f' :: _ => takeWord? "false" (.boolean false) chars
    | chars => readNumber? chars

/-- Reads the items of a list up to its end. -/
def readItems? : (fuel depth : Nat) → List Char → Option (List Json × List Char)
  | 0, _, _ => none
  | fuel + 1, depth, chars =>
    match readValue? fuel depth chars with
    | none => none
    | some (item, rest) =>
      match skipBlanks rest with
      | ']' :: rest => some ([item], rest)
      | ',' :: rest =>
        (readItems? fuel depth (skipBlanks rest)).map fun (items, rest) => (item :: items, rest)
      | _ => none

/-- Reads the members of an object up to its end, given those in front of them. -/
def readMembers? : (fuel depth : Nat) → List (String × Json) → List Char →
    Option (List (String × Json) × List Char)
  | 0, _, _, _ => none
  | fuel + 1, depth, members, chars =>
    match chars with
    | '"' :: rest =>
      match readText? false rest with
      | none => none
      | some (name, rest) =>
        match skipBlanks rest with
        | ':' :: rest =>
          match readValue? fuel depth (skipBlanks rest) with
          | none => none
          | some (value, rest) =>
            let members := putMember (String.ofList name) value members
            match skipBlanks rest with
            | '\x7d' :: rest => some (members, rest)
            | ',' :: rest => readMembers? fuel depth members (skipBlanks rest)
            | _ => none
        | _ => none
    | _ => none

end

/-- Reads a text that is one value. -/
def read? (text : String) : Option Json :=
  let chars := skipBlanks text.toList
  match readValue? (2 * chars.length + 2) depthLimit chars with
  | some (value, rest) => if (skipBlanks rest).isEmpty then some value else none
  | none => none

end SqlLedger.Json
