/-
Positions in a YAML text.

What a character means in YAML depends on the column where it stands, so reading goes on from a
cursor: the rest of the text with its line and column. A carriage return ends a line like a line
feed, but only the line feed begins a new line to count columns from. A text ends at its first null
character.
-/

namespace SqlLedger.Configuration.Yaml

/-! ### Characters -/

/-- Blanks within a line. -/
def isBlank (char : Char) : Bool :=
  char = ' ' || char = '\t'

/-- Characters that end a line. -/
def isBreak (char : Char) : Bool :=
  char = '\n' || char = '\r'

/-- Blanks and characters that end a line. -/
def isGap (char : Char) : Bool :=
  isBlank char || isBreak char

/-- Characters with a meaning inside brackets and braces. -/
def isFlowMark (char : Char) : Bool :=
  char = ',' || char = '[' || char = ']' || char = '\x7b' || char = '\x7d'

/-- Characters of names. -/
def isNameChar (char : Char) : Bool :=
  char.isAlphanum || char = '_' || char = '-'

/-- What is left of a text begins with a blank or the end of a line, or is nothing. -/
def startsGap (chars : List Char) : Bool :=
  chars.head?.all isGap

/-- How many characters the end of a line takes that stands at the front; none if none does. -/
def breakWidth : List Char → Nat
  | '\r' :: '\n' :: _ => 2
  | char :: _ => if isBreak char then 1 else 0
  | [] => 0

/-- The number of ends of lines. -/
def countBreaks : List Char → Nat
  | '\r' :: '\n' :: rest => countBreaks rest + 1
  | char :: rest => if isBreak char then countBreaks rest + 1 else countBreaks rest
  | [] => 0

/-! ### Cursors -/

/-- A position in a text with what is left of it. -/
structure Cursor where
  rest : List Char
  index : Nat
  line : Nat
  column : Nat
  deriving DecidableEq, Repr

namespace Cursor

/-- The beginning of a text. -/
def start (text : String) : Cursor :=
  ⟨text.toList.takeWhile (· ≠ '\x00'), 0, 0, 0⟩

/-- Goes one character on. -/
def next (cursor : Cursor) : Cursor :=
  match cursor.rest with
  | [] => cursor
  | '\n' :: rest => ⟨rest, cursor.index + 1, cursor.line + 1, 0⟩
  | _ :: rest => ⟨rest, cursor.index + 1, cursor.line, cursor.column + 1⟩

/-- Goes some characters on. -/
def skip (cursor : Cursor) : (count : Nat) → Cursor
  | 0 => cursor
  | count + 1 => cursor.next.skip count

/-- Goes on as far as the characters are of a kind. -/
def skipWhile (cursor : Cursor) (kind : Char → Bool) : Cursor :=
  cursor.skip (cursor.rest.takeWhile kind).length

/-- Goes on to where a given rest of the text is left. -/
def skipTo (cursor : Cursor) (rest : List Char) : Cursor :=
  cursor.skip (cursor.rest.length - rest.length)

/-- Goes past the end of a line, if one stands here. -/
def skipBreak (cursor : Cursor) : Cursor :=
  cursor.skip (breakWidth cursor.rest)

/-- Goes past a comment, if one stands here. -/
def skipComment (cursor : Cursor) : Cursor :=
  if cursor.rest.head? = some '#' then cursor.skipWhile (!isBreak ·) else cursor

/-- Goes to the next line; nothing but blanks and a comment may be left of this one. -/
def endLine? (cursor : Cursor) : Option Cursor :=
  let cursor := (cursor.skipWhile isBlank).skipComment
  if cursor.rest.head?.all isBreak then some cursor.skipBreak else none

/-- A line begins here with three marks, as the lines around a document do. -/
def isDocumentMark (cursor : Cursor) (mark : Char) : Bool :=
  cursor.column = 0 && cursor.rest.take 3 = [mark, mark, mark] && startsGap (cursor.rest.drop 3)

/-- The line begins or ends a document. -/
def isDocumentLine (cursor : Cursor) : Bool :=
  cursor.isDocumentMark '-' || cursor.isDocumentMark '.'

end Cursor

end SqlLedger.Configuration.Yaml
