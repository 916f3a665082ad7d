/-
The texts of YAML scalars.

A scalar is written plainly, between quotes, or as a block of lines. Plain and quoted scalars may
go over several lines: a single end of a line counts as a space, and of several the first does not
count. In a block the lines are kept, or folded in the same way if none of them is indented
further.
-/

import SqlLedger.Configuration.Yaml.Cursor
import SqlLedger.Text.CodePoint

namespace SqlLedger.Configuration.Yaml

/-! ### Gaps -/

/-- What blanks and ends of lines within a scalar stand for. -/
def foldGap (gap : List Char) : List Char :=
  match countBreaks gap with
  | 0 => gap
  | 1 => [' ']
  | breaks + 1 => List.replicate breaks '\n'

/-! ### Quoted scalars -/

/-- The character that an escape stands for, and how many characters the escape takes behind its
backslash. -/
def readEscape? : List Char → Option (Char × Nat)
  | [] => none
  | 'x' :: rest => (Text.takeCodePoint? 2 rest).map fun (char, _) => (char, 3)
  | 'u' :: rest => (Text.takeCodePoint? 4 rest).map fun (char, _) => (char, 5)
  | 'U' :: rest => (Text.takeCodePoint? 8 rest).map fun (char, _) => (char, 9)
  | letter :: _ => (named? letter).map (·, 1)
where
  /-- The character that has a letter of its own. -/
  named? (letter : Char) : Option Char :=
    match letter with
    | '0' => some '\x00'
    | 'a' => some '\x07'
    | 'b' => some '\x08'
    | 't' | '\t' => some '\t'
    | 'n' => some '\n'
    | 'v' => some '\x0b'
    | 'f' => some '\x0c'
    | 'r' => some '\r'
    | 'e' => some '\x1b'
    | 'N' => some '\u0085'
    | '_' => some '\u00a0'
    | 'L' => some '\u2028'
    | 'P' => some '\u2029'
    | ' ' | '"' | '\'' | '\\' => some letter
    | _ => none

/-- One piece of a quoted scalar. -/
inductive Piece
  /-- The closing quote. -/
  | closing
  /-- Characters of the scalar, and where they end. -/
  | inside (chars : List Char) (cursor : Cursor)

/-- Reads the next piece of a scalar between double or single quotes. Double ones allow for
escapes; a backslash in front of the end of a line joins the lines. -/
def readPiece? (isDouble : Bool) (cursor : Cursor) : Option Piece :=
  match cursor.rest with
  | [] => none
  | char :: rest =>
    if isGap char then
      let gap := cursor.rest.takeWhile isGap
      some (.inside (foldGap gap) (cursor.skip gap.length))
    else if isDouble then
      if char = '"' then some .closing
      else if char = '\\' then
        if rest.head?.any isBreak then
          let gap := (rest.drop (breakWidth rest)).takeWhile isGap
          some (.inside (List.replicate (countBreaks gap) '\n')
            (cursor.skip (1 + breakWidth rest + gap.length)))
        else (readEscape? rest).map fun (char, width) => .inside [char] (cursor.skip (width + 1))
      else some (.inside [char] cursor.next)
    else if char = '\'' then
      if rest.head? = some '\'' then some (.inside ['\''] (cursor.skip 2)) else some .closing
    else some (.inside [char] cursor.next)

/-- Reads the inside of a quoted scalar, and goes past its closing quote. No line of it may look
like the beginning or the end of a document. -/
def readQuoted? (isDouble : Bool) : (fuel : Nat) → Cursor → Option (List Char × Cursor)
  | 0, _ => none
  | fuel + 1, cursor =>
    if cursor.isDocumentLine then none
    else
      match readPiece? isDouble cursor with
      | none => none
      | some .closing => some ([], cursor.next)
      | some (.inside chars cursor) =>
        (readQuoted? isDouble fuel cursor).map fun (more, cursor) => (chars ++ more, cursor)

/-! ### Plain scalars -/

/-- Takes characters of a plain scalar up to a blank or to a mark that ends it. -/
def takePlainWord (inFlow : Bool) : List Char → List Char
  | [] => []
  | char :: rest =>
    let endsKey := char = ':' && (startsGap rest || (inFlow && rest.head?.any isFlowMark))
    if isGap char || endsKey || (inFlow && isFlowMark char) then []
    else char :: takePlainWord inFlow rest

/-- Behind the first end of a line a tab stands in front of a column. -/
def hasEarlyTab (indent : Int) (afterBreak : Bool) (column : Nat) : List Char → Bool
  | [] => false
  | char :: rest =>
    (afterBreak && char = '\t' && (column : Int) < indent) ||
      hasEarlyTab indent (afterBreak || isBreak char) (if char = '\n' then 0 else column + 1) rest

/-- A plain scalar as it was read. -/
structure PlainScalar where
  text : List Char
  /-- It ends in front of a new line. -/
  endsLine : Bool
  cursor : Cursor

/-- Goes on reading a plain scalar behind a text and a gap. Outside brackets it ends where a line
begins in front of the given column. -/
def readPlain? (inFlow : Bool) (indent : Int) :
    (fuel : Nat) → (text gap : List Char) → Cursor → Option PlainScalar
  | 0, _, _, _ => none
  | fuel + 1, text, gap, cursor =>
    if cursor.isDocumentLine || cursor.rest.head? = some '#' then
      some ⟨text, gap.any isBreak, cursor⟩
    else
      let word := takePlainWord inFlow cursor.rest
      let text := if word.isEmpty then text else text ++ foldGap gap ++ word
      let behind := cursor.skip word.length
      let next := behind.rest.takeWhile isGap
      if next.isEmpty then some ⟨text, word.isEmpty && gap.any isBreak, behind⟩
      else if hasEarlyTab indent false behind.column next then none
      else
        let cursor := behind.skip next.length
        if !inFlow && (cursor.column : Int) < indent then some ⟨text, next.any isBreak, cursor⟩
        else readPlain? inFlow indent fuel text next cursor

/-! ### Blocks -/

/-- What becomes of the ends of lines at the end of a block. -/
inductive Ending
  | dropped
  | single
  | kept
  deriving DecidableEq, Repr

/-- The indicators behind the mark of a block: its ending, its indentation if it is given, and how
many characters they take. -/
structure BlockHeader where
  ending : Ending
  indent : Nat
  width : Nat
  deriving DecidableEq, Repr

/-- The ending that an indicator asks for. -/
def endingOf? (char : Char) : Option Ending :=
  if char = '+' then some .kept else if char = '-' then some .dropped else none

/-- Reads the indicators behind the mark of a block, which stand in either order. An indentation of
zero is refused. -/
def readBlockHeader? (chars : List Char) : Option BlockHeader :=
  let digit (char : Option Char) : Nat := (char.bind Text.digitValue?).getD 0
  let ending (char : Option Char) : Option Ending := char.bind endingOf?
  let first := chars.head?
  let second := chars.tail.head?
  let header : BlockHeader :=
    match ending first with
    | some found =>
      if second.any Char.isDigit then ⟨found, digit second, 2⟩ else ⟨found, 0, 1⟩
    | none =>
      if first.any Char.isDigit then
        match ending second with
        | some found => ⟨found, digit first, 2⟩
        | none => ⟨.single, digit first, 1⟩
      else ⟨.single, 0, 0⟩
  if (chars.take header.width).any (· = '0') then none else some header

/-- Where the indentation of a line ends, and the empty lines in front of it. -/
structure Indented where
  breaks : Nat
  /-- The greatest column that a line in front of it reaches. -/
  deepest : Nat
  cursor : Cursor

/-- Takes empty lines and the indentation behind them, up to a column, or as far as it goes where
the column is zero. No tab stands in the indentation. -/
def takeIndentation? (indent : Nat) : (fuel : Nat) → Indented → Option Indented
  | 0, _ => none
  | fuel + 1, so =>
    let spaces := (so.cursor.rest.takeWhile (· = ' ')).length
    let cursor := so.cursor.skip
      (if indent = 0 then spaces else min spaces (indent - so.cursor.column))
    let so := { so with deepest := max so.deepest cursor.column, cursor := cursor }
    if (indent = 0 ∨ cursor.column < indent) ∧ cursor.rest.head? = some '\t' then none
    else
      match breakWidth cursor.rest with
      | 0 => some so
      | width =>
        takeIndentation? indent fuel
          { so with breaks := so.breaks + 1, cursor := cursor.skip width }

/-- A block as far as it was read. -/
structure BlockText where
  text : List Char := []
  /-- A line has ended in front of here. -/
  hasEnded : Bool := false
  /-- The last line began with a blank. -/
  wasIndented : Bool := false
  /-- The number of empty lines behind it. -/
  breaks : Nat

/-- What stands between the last line and the next one. -/
def BlockText.join (isLiteral isIndented : Bool) (block : BlockText) : List Char :=
  if !block.hasEnded then []
  else if isLiteral || block.wasIndented || isIndented then ['\n']
  else if block.breaks = 0 then [' ']
  else []

/-- Reads the lines of a block that begin in a column. -/
def readBlockLines? (isLiteral : Bool) (indent : Nat) :
    (fuel : Nat) → BlockText → Cursor → Option (BlockText × Cursor)
  | 0, _, _ => none
  | fuel + 1, block, cursor =>
    if cursor.column ≠ indent ∨ cursor.rest.isEmpty then some (block, cursor)
    else
      let isIndented := cursor.rest.head?.any isBlank
      let line := cursor.rest.takeWhile (!isBreak ·)
      let text := block.text ++ block.join isLiteral isIndented ++
        List.replicate block.breaks '\n' ++ line
      let cursor := cursor.skip line.length
      if cursor.rest.isEmpty then some (⟨text, false, isIndented, 0⟩, cursor)
      else
        match takeIndentation? indent (cursor.rest.length + 1) ⟨0, 0, cursor.skipBreak⟩ with
        | none => none
        | some so =>
          readBlockLines? isLiteral indent fuel ⟨text, true, isIndented, so.breaks⟩ so.cursor

/-- The text of a block with what is left of the ends of its lines. -/
def BlockText.finish (block : BlockText) (ending : Ending) : List Char :=
  block.text ++
    match ending with
    | .dropped => []
    | .single => if block.hasEnded then ['\n'] else []
    | .kept => List.replicate (block.breaks + if block.hasEnded then 1 else 0) '\n'

/-- Reads a block behind its mark, inside a collection of the given indentation. Without an
indication the first line with characters sets the indentation of the block. -/
def readBlock? (isLiteral : Bool) (outer : Int) (cursor : Cursor) :
    Option (List Char × Cursor) := do
  let header ← readBlockHeader? cursor.rest
  let cursor ← (cursor.skip header.width).endLine?
  let given := if header.indent = 0 then 0 else (max outer 0).toNat + header.indent
  let so ← takeIndentation? given (cursor.rest.length + 1) ⟨0, 0, cursor⟩
  let indent := if given = 0 then max so.deepest (max (outer + 1).toNat 1) else given
  let (block, cursor) ← readBlockLines? isLiteral indent (cursor.rest.length + 1)
    ⟨[], false, false, so.breaks⟩ so.cursor
  return (block.finish header.ending, cursor)

end SqlLedger.Configuration.Yaml
