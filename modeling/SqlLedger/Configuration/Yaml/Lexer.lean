/-
From a YAML text to its tokens.

Block collections have no brackets: a deeper column begins one, and a lesser one ends it. A key
without a question mark in front is found out only at its colon, so the lexer remembers where a key
may have begun, one place for each bracket that is open, and puts the tokens for it there later. A
key like that has to end on its line, within 1024 characters.
-/

import SqlLedger.Configuration.Yaml.Token

namespace SqlLedger.Configuration.Yaml

/-- Where a key may have begun. -/
structure Candidate where
  /-- The number of tokens in front of it. -/
  position : Nat
  index : Nat
  line : Nat
  column : Nat
  /-- Nothing but a key can stand there. -/
  isRequired : Bool
  deriving DecidableEq, Repr

/-- A text as far as it was cut into tokens. -/
structure Lexer where
  cursor : Cursor
  /-- The tokens so far, the last one in front. -/
  tokens : List Token := []
  /-- The column of the open block collection, or less than zero. -/
  indent : Int := -1
  /-- The columns of the collections around it. -/
  indents : List Int := []
  candidate : Option Candidate := none
  /-- The candidates outside of each open bracket. -/
  outer : List (Option Candidate) := []
  /-- A key may begin here. -/
  allowsKey : Bool := true
  /-- Where the last quoted scalar ended, behind which a colon needs no blank. -/
  quoteEnd : Nat := 0

namespace Lexer

/-! ### Keys and indentation -/

/-- The lexer is inside brackets. -/
def inFlow (lexer : Lexer) : Bool :=
  !lexer.outer.isEmpty

/-- Adds a token. -/
def push (lexer : Lexer) (token : Token) : Lexer :=
  { lexer with tokens := token :: lexer.tokens }

/-- Puts a token behind the first ones. -/
def insert (lexer : Lexer) (position : Nat) (token : Token) : Lexer :=
  let later := lexer.tokens.length - position
  { lexer with tokens := lexer.tokens.take later ++ token :: lexer.tokens.drop later }

/-- Says whether a key may begin behind here. -/
def allowing (lexer : Lexer) (allowsKey : Bool) : Lexer :=
  { lexer with allowsKey := allowsKey }

/-- Gives up the candidate. -/
def dropCandidate? (lexer : Lexer) : Option Lexer :=
  if lexer.candidate.any (·.isRequired) then none else some { lexer with candidate := none }

/-- Makes this place a candidate, if a key may begin here. -/
def saveCandidate? (lexer : Lexer) : Option Lexer :=
  if !lexer.allowsKey then some lexer
  else do
    let lexer ← lexer.dropCandidate?
    let cursor := lexer.cursor
    let isRequired := lexer.inFlow && lexer.indent = (cursor.column : Int)
    let candidate : Candidate :=
      ⟨lexer.tokens.length, cursor.index, cursor.line, cursor.column, isRequired⟩
    return { lexer with candidate := some candidate }

/-- Gives up a candidate that is too far away. -/
def dropStale? (cursor : Cursor) : Option Candidate → Option (Option Candidate)
  | none => some none
  | some candidate =>
    if candidate.line < cursor.line ∨ candidate.index + 1024 < cursor.index then
      if candidate.isRequired then none else some none
    else some (some candidate)

/-- Gives up all candidates that are too far away. -/
def dropAllStale? (lexer : Lexer) : Option Lexer := do
  let candidate ← dropStale? lexer.cursor lexer.candidate
  let outer ← lexer.outer.mapM (dropStale? lexer.cursor)
  return { lexer with candidate := candidate, outer := outer }

/-- Begins a block collection in a column, unless one is open there. Its first token stands behind
the given number of tokens. -/
def openBlock (lexer : Lexer) (column position : Nat) (token : Token) : Lexer :=
  if !lexer.inFlow && lexer.indent < (column : Int) then
    { lexer.insert position token with
      indent := column, indents := lexer.indent :: lexer.indents }
  else lexer

/-- How many of the columns lie behind a given one, with the columns that are left. -/
def closing (column : Int) : (indent : Int) → (indents : List Int) → Nat × Int × List Int
  | indent, [] => (0, indent, [])
  | indent, previous :: indents =>
    if column < indent then
      let (count, left) := closing column previous indents
      (count + 1, left)
    else (0, indent, previous :: indents)

/-- Ends the block collections that lie behind a column. -/
def closeBlocks (lexer : Lexer) (column : Int) : Lexer :=
  if lexer.inFlow then lexer
  else
    let (count, indent, indents) := closing column lexer.indent lexer.indents
    { lexer with
      tokens := List.replicate count .blockEnd ++ lexer.tokens
      indent := indent
      indents := indents }

/-- Ends all block collections, as in front of a line that belongs to no document. -/
def closeAll? (lexer : Lexer) : Option Lexer :=
  ((lexer.closeBlocks (-1)).allowing false).dropCandidate?

/-! ### Marks -/

/-- Takes a mark of some characters. -/
def takeMark (lexer : Lexer) (width : Nat) (token : Token) : Lexer :=
  { lexer.push token with cursor := lexer.cursor.skip width }

/-- Takes a directive with its line. -/
def takeDirectiveLine? (lexer : Lexer) : Option Lexer := do
  let lexer ← lexer.closeAll?
  let cursor := lexer.cursor.next
  let cursor ← (cursor.skipTo (← takeDirective? cursor.rest)).endLine?
  return { lexer.push .directive with cursor := cursor }

/-- Takes the marks of a document's first or last line. -/
def takeDocumentMark? (lexer : Lexer) (token : Token) : Option Lexer := do
  return (← lexer.closeAll?).takeMark 3 token

/-- Takes an opening bracket. Brackets are nested at most 255 deep. -/
def openFlow? (lexer : Lexer) (token : Token) : Option Lexer := do
  let lexer ← lexer.saveCandidate?
  if lexer.outer.length = 255 then none
  let inner :=
    { lexer with candidate := none, outer := lexer.candidate :: lexer.outer, allowsKey := true }
  return inner.takeMark 1 token

/-- Takes a closing bracket. -/
def closeFlow? (lexer : Lexer) (token : Token) : Option Lexer := do
  let lexer ← lexer.dropCandidate?
  let lexer :=
    match lexer.outer with
    | [] => lexer
    | candidate :: outer => { lexer with candidate := candidate, outer := outer }
  return (lexer.allowing false).takeMark 1 token

/-- Takes a comma. -/
def takeComma? (lexer : Lexer) : Option Lexer := do
  return ((← lexer.dropCandidate?).allowing true).takeMark 1 .flowEntry

/-- Takes the hyphen in front of an item. -/
def takeHyphen? (lexer : Lexer) : Option Lexer := do
  if lexer.inFlow ∨ !lexer.allowsKey then none
  let lexer := lexer.openBlock lexer.cursor.column lexer.tokens.length .blockSequenceStart
  return ((← lexer.dropCandidate?).allowing true).takeMark 1 .blockEntry

/-- Takes the question mark in front of a key. -/
def takeQuestionMark? (lexer : Lexer) : Option Lexer := do
  if !lexer.inFlow ∧ !lexer.allowsKey then none
  let lexer := lexer.openBlock lexer.cursor.column lexer.tokens.length .blockMappingStart
  return ((← lexer.dropCandidate?).allowing !lexer.inFlow).takeMark 1 .key

/-- Takes the colon in front of a value. A candidate turns out to be a key by it. -/
def takeColon? (lexer : Lexer) : Option Lexer :=
  match lexer.candidate with
  | some candidate =>
    let lexer := lexer.insert candidate.position .key
    let lexer := lexer.openBlock candidate.column candidate.position .blockMappingStart
    some (({ lexer with candidate := none }.allowing false).takeMark 1 .value)
  | none =>
    if !lexer.inFlow ∧ !lexer.allowsKey then none
    else
      let lexer := lexer.openBlock lexer.cursor.column lexer.tokens.length .blockMappingStart
      some ((lexer.allowing !lexer.inFlow).takeMark 1 .value)

/-! ### Scalars and what stands in front of them -/

/-- Takes the name of an anchor or an alias behind its mark. -/
def takeName? (lexer : Lexer) (token : List Char → Token) : Option Lexer := do
  let lexer ← lexer.saveCandidate?
  let (name, rest) ← takeAnchorName? lexer.cursor.rest.tail
  return { (lexer.allowing false).push (token name) with cursor := lexer.cursor.skipTo rest }

/-- Takes a tag. -/
def takeTag? (lexer : Lexer) : Option Lexer := do
  let lexer ← lexer.saveCandidate?
  let (tag, rest) ← Yaml.takeTag? lexer.cursor.rest.tail
  return { (lexer.allowing false).push (.tag tag) with cursor := lexer.cursor.skipTo rest }

/-- Takes a block of lines behind its mark. -/
def takeBlock? (lexer : Lexer) (isLiteral : Bool) : Option Lexer := do
  let lexer ← lexer.saveCandidate?
  let (text, cursor) ← readBlock? isLiteral lexer.indent lexer.cursor.next
  return { (lexer.allowing true).push (.scalar text false) with cursor := cursor }

/-- Takes a scalar between quotes. -/
def takeQuoted? (lexer : Lexer) (isDouble : Bool) : Option Lexer := do
  let lexer ← lexer.saveCandidate?
  let inside := lexer.cursor.next
  let (text, cursor) ← readQuoted? isDouble (inside.rest.length + 1) inside
  return { (lexer.allowing false).push (.scalar text false) with
    cursor := cursor, quoteEnd := cursor.index }

/-- Takes a plain scalar. -/
def takePlain? (lexer : Lexer) : Option Lexer := do
  let lexer ← lexer.saveCandidate?
  let cursor := lexer.cursor
  let scalar ← readPlain? lexer.inFlow (lexer.indent + 1) (cursor.rest.length + 1) [] [] cursor
  return { (lexer.allowing scalar.endsLine).push (.scalar scalar.text true) with
    cursor := scalar.cursor }

/-! ### The whole text -/

/-- Drops blanks, comments and the ends of lines. Tabs stay where a key may begin outside of
brackets, and a new line outside of brackets is a place for a key. Each step but the last takes a
character. -/
def skipGap : (fuel : Nat) → Lexer → Lexer
  | 0, lexer => lexer
  | fuel + 1, lexer =>
    match lexer.cursor.rest with
    | [] => lexer
    | char :: _ =>
      if char = ' ' ∨ (char = '\t' ∧ (lexer.inFlow ∨ !lexer.allowsKey)) then
        skipGap fuel { lexer with cursor := lexer.cursor.next }
      else if isBreak char then
        skipGap fuel
          { lexer with
            cursor := lexer.cursor.skipBreak
            allowsKey := lexer.allowsKey || !lexer.inFlow }
      else if char = '#' then skipGap fuel { lexer with cursor := lexer.cursor.skipComment }
      else lexer

/-- A colon at the front divides a key from its value. -/
def isDivider (lexer : Lexer) (rest : List Char) : Bool :=
  startsGap rest ||
    (lexer.inFlow && (rest.head?.any isFlowMark || lexer.cursor.index = lexer.quoteEnd))

/-- Takes what a character begins that is followed by the rest of the text. -/
def takeFrom? (lexer : Lexer) (char : Char) (rest : List Char) : Option Lexer :=
  match char with
  | '[' => lexer.openFlow? .flowSequenceStart
  | ']' => lexer.closeFlow? .flowSequenceEnd
  | '\x7b' => lexer.openFlow? .flowMappingStart
  | '\x7d' => lexer.closeFlow? .flowMappingEnd
  | ',' => lexer.takeComma?
  | '-' => if startsGap rest then lexer.takeHyphen? else lexer.takePlain?
  | '?' => if startsGap rest then lexer.takeQuestionMark? else lexer.takePlain?
  | ':' => if lexer.isDivider rest then lexer.takeColon? else lexer.takePlain?
  | '*' => lexer.takeName? .alias
  | '&' => lexer.takeName? .anchor
  | '!' => lexer.takeTag?
  | '|' => if lexer.inFlow then lexer.takePlain? else lexer.takeBlock? true
  | '>' => if lexer.inFlow then lexer.takePlain? else lexer.takeBlock? false
  | '\'' => lexer.takeQuoted? false
  | '"' => lexer.takeQuoted? true
  | '%' | '@' | '\x60' => none
  | _ => lexer.takePlain?

/-- Takes what stands at the front of a text. -/
def take? (lexer : Lexer) : Option Lexer :=
  match lexer.cursor.rest with
  | [] => some lexer
  | char :: rest =>
    if lexer.cursor.column = 0 ∧ char = '%' then lexer.takeDirectiveLine?
    else if lexer.cursor.isDocumentMark '-' then lexer.takeDocumentMark? .documentStart
    else if lexer.cursor.isDocumentMark '.' then lexer.takeDocumentMark? .documentEnd
    else lexer.takeFrom? char rest

/-- Goes on to the end of the text; every step but the last takes a character. -/
def run? : (fuel : Nat) → Lexer → Option Lexer
  | 0, _ => none
  | fuel + 1, lexer => do
    let lexer ← (skipGap (lexer.cursor.rest.length + 1) lexer).dropAllStale?
    let lexer := lexer.closeBlocks lexer.cursor.column
    if lexer.cursor.rest.isEmpty then lexer.closeAll?
    else run? fuel (← lexer.take?)

end Lexer

/-- The tokens of a text. -/
def tokens? (text : String) : Option (List Token) := do
  let cursor := Cursor.start text
  let lexer ← Lexer.run? (cursor.rest.length + 1) { cursor := cursor }
  return lexer.tokens.reverse

end SqlLedger.Configuration.Yaml
