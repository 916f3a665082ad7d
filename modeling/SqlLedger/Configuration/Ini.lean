/-
Settings in INI files.

A key is what stands in front of an equals sign or a colon, and its value, which is always a text,
the rest of the line. A header in brackets opens a section, and what follows it belongs to the
section; one of the same name as an earlier one begins it anew. A comment is a line of its own. A
value may begin between quotes, and a backslash escapes the character behind it.
-/

import SqlLedger.Configuration.Value
import SqlLedger.Text.Blank
import SqlLedger.Text.CodePoint

namespace SqlLedger.Configuration.Ini

/-! ### Escapes -/

/-- What a character behind a backslash stands for. The end of a line stands for nothing. -/
def ofEscapeLetter (letter : Char) : List Char :=
  match letter with
  | '0' => ['\x00']
  | 'a' => ['\x07']
  | 'b' => ['\x08']
  | 't' => ['\t']
  | 'r' => ['\r']
  | 'n' => ['\n']
  | '\n' => []
  | letter => [letter]

/-- The character with the code point that four hexadecimal digits spell, or a plus sign and three.
-/
def ofEscapeDigits? (digits : List Char) : Option Char :=
  Text.codePoint? (if digits.head? = some '+' then digits.tail else digits)

/-- Takes characters up to one that ends them, and undoes their escapes. Where the end of the text
may end them as well is up to the kind of text. -/
def takeUntil? (isEnd : Char → Bool) (orEnd : Bool) : List Char → Option (List Char × List Char)
  | [] => if orEnd then some ([], []) else none
  | char :: rest =>
    if isEnd char then some ([], char :: rest)
    else if char = '\\' then
      match rest with
      | 'x' :: a :: b :: c :: d :: rest =>
        match ofEscapeDigits? [a, b, c, d] with
        | some char =>
          (takeUntil? isEnd orEnd rest).map fun (inside, rest) => (char :: inside, rest)
        | none => none
      | 'x' :: _ | [] => none
      | letter :: rest =>
        (takeUntil? isEnd orEnd rest).map fun (inside, rest) =>
          (ofEscapeLetter letter ++ inside, rest)
    else (takeUntil? isEnd orEnd rest).map fun (inside, rest) => (char :: inside, rest)

/-! ### Values -/

/-- Characters that end a line. -/
def isBreak (char : Char) : Bool :=
  char = '\n' || char = '\r'

/-- Takes the rest of a line. -/
def takeLine? (chars : List Char) : Option (List Char × List Char) :=
  takeUntil? isBreak true chars

/-- Takes a value behind its sign. What follows the closing quote on its line belongs to it. -/
def takeValue? (chars : List Char) : Option (String × List Char) := do
  let chars := chars.dropWhile fun char => Text.isWhiteSpace char && !isBreak char
  let quote := chars.head?.filter fun char => char = '"' || char = '\''
  let (inside, rest) ←
    match quote with
    | some quote => do
      let (inside, rest) ← takeUntil? (· = quote) false chars.tail
      let (more, rest) ← takeLine? rest.tail
      some (inside ++ more, rest)
    | none => takeLine? chars
  return (String.ofList (Text.trim inside), rest)

/-! ### Files -/

/-- Drops blanks, and keeps account of whether a line begins. -/
def skipBlanks (beginsLine : Bool) : List Char → Bool × List Char
  | [] => (beginsLine, [])
  | char :: rest =>
    if Text.isWhiteSpace char then skipBlanks (char = '\n') rest else (beginsLine, char :: rest)

/-- The entries of a file so far, and the section that its keys belong to. -/
structure Progress where
  entries : Entries := []
  scope : Option String := none
  deriving DecidableEq, Repr

/-- Opens a section. -/
def Progress.opening (progress : Progress) (name : String) : Progress :=
  ⟨progress.entries.put name (.table true), some name⟩

/-- Gives a key a value. -/
def Progress.giving (progress : Progress) (key value : String) : Progress :=
  { progress with
    entries :=
      match progress.scope with
      | none => progress.entries.put key (.text value)
      | some name => progress.entries.put name (.table false) }

/-- Takes a key with its value. The key may extend over lines, but is not blank. -/
def takePair? (progress : Progress) (chars : List Char) : Option (Progress × List Char) := do
  let (written, rest) ← takeUntil? (fun char => char = '=' || char = ':') false chars
  let key := Text.trim written
  if key.isEmpty then none
  let (value, rest) ← takeValue? rest.tail
  return (progress.giving (String.ofList key) value, rest)

/-- Reads a file to its end, given what stands in front. Each step but the last takes a character.
-/
def readFrom? : (fuel : Nat) → (beginsLine : Bool) → Progress → List Char → Option Progress
  | 0, _, _, _ => none
  | fuel + 1, beginsLine, progress, chars =>
    match skipBlanks beginsLine chars with
    | (_, []) => some progress
    | (beginsLine, char :: rest) =>
      if char = ';' ∨ char = '#' then
        if beginsLine then readFrom? fuel false progress (rest.dropWhile (· ≠ '\n')) else none
      else if char = '[' then
        match takeUntil? (· = ']') false rest with
        | some (name, rest) =>
          readFrom? fuel false (progress.opening (String.ofList (Text.trim name))) rest.tail
        | none => none
      else
        match takePair? progress (char :: rest) with
        | some (progress, rest) => readFrom? fuel false progress rest
        | none => none

/-- Reads a file. -/
def read? (text : String) : Option Entries :=
  (readFrom? (text.length + 1) true {} text.toList).map (·.entries)

end SqlLedger.Configuration.Ini
