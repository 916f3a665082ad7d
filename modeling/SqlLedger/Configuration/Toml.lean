/-
Settings in TOML.

A line gives a key a value, and a header opens a section that the lines behind it belong to. Values
may be texts, truth values, numbers, moments, lists and tables within a line. Whatever does not
follow the format makes the whole file unreadable, and so does a key or a table that is given
twice.
-/

import SqlLedger.Configuration.Toml.Moment
import SqlLedger.Configuration.Toml.Number
import SqlLedger.Configuration.Toml.Section

namespace SqlLedger.Configuration.Toml

/-! ### Blanks and lines -/

/-- Drops blanks within a line. -/
def skipBlanks : List Token → List Token
  | .blanks _ :: rest => rest
  | rest => rest

/-- Ends a line; nothing but blanks and a comment may be left of it. -/
def endLine? (tokens : List Token) : Option (List Token) :=
  match skipBlanks tokens with
  | [] | [.comment] => some []
  | .lineEnd :: rest | .comment :: .lineEnd :: rest => some rest
  | _ => none

/-- Drops blanks, comments and the ends of lines. A comment ends its line. -/
def skipLines? : List Token → Option (List Token)
  | .blanks _ :: rest | .lineEnd :: rest | .comment :: .lineEnd :: rest => skipLines? rest
  | [.comment] => some []
  | .comment :: _ => none
  | rest => some rest

/-! ### Keys -/

/-- Takes one name of a key. -/
def takeName? : List Token → Option (String × List Token)
  | .word chars :: rest => some (String.ofList chars, rest)
  | .text value false :: rest => some (String.ofList value, rest)
  | _ => none

/-- Takes a key, whose names are parted by periods, and the blanks behind it. -/
def takeKey? : (fuel : Nat) → List Token → Option (Key × List Token)
  | 0, _ => none
  | fuel + 1, tokens => do
    let (name, rest) ← takeName? (skipBlanks tokens)
    match skipBlanks rest with
    | .period :: rest =>
      let (names, rest) ← takeKey? fuel rest
      return (name :: names, rest)
    | rest => return ([name], rest)

/-! ### Moments -/

/-- Takes the words and marks that a moment consists of behind its first word, as characters. One
space may stand between date and time. -/
def takeMoment (rest : List Token) : List Char × List Token :=
  match rest with
  | .colon :: rest => prepend [':'] (takeMoment rest)
  | .period :: rest => prepend ['.'] (takeMoment rest)
  | .plus :: rest => prepend ['+'] (takeMoment rest)
  | .word chars :: rest => prepend chars (takeMoment rest)
  | rest => ([], rest)
where
  /-- Puts characters in front of those that were taken. -/
  prepend (chars : List Char) (taken : List Char × List Token) : List Char × List Token :=
    (chars ++ taken.1, taken.2)

/-- Reads the moment that a word begins. -/
def readMoment? (word : List Char) (rest : List Token) : Option (Value × List Token) := do
  let (more, rest) :=
    match rest with
    | .blanks [' '] :: .word hour :: rest =>
      let (more, rest) := takeMoment rest
      (' ' :: hour ++ more, rest)
    | rest => takeMoment rest
  let moment ← Moment.read? (word ++ more)
  return (.text moment.text, rest)

/-- Somewhere an exponent begins with a minus sign. -/
def hasNegativeExponent : List Char → Bool
  | mark :: sign :: rest =>
    ((mark = 'e' || mark = 'E') && sign = '-') || hasNegativeExponent (sign :: rest)
  | _ => false

/-- A word that has the looks of a date: with a `T`, or with a hyphen that is no sign. -/
def looksLikeDay (word : List Char) : Bool :=
  'T' ∈ word || 't' ∈ word || ('-' ∈ word.drop 1 && !hasNegativeExponent word)

/-! ### Values -/

/-- Reads the value that a word begins. -/
def readWord? (word : List Char) (rest : List Token) : Option (Value × List Token) :=
  if word = ['t', 'r', 'u', 'e'] then some (.boolean true, rest)
  else if word = ['f', 'a', 'l', 's', 'e'] then some (.boolean false, rest)
  else if word = ['i', 'n', 'f'] ∨ word = ['n', 'a', 'n'] ∨
      word.head?.any (fun char => char.isDigit || char = '-') then
    if looksLikeDay word ∨ rest.head? = some .colon then readMoment? word rest
    else readNumber? word rest
  else none

mutual

/-- Reads the value at the front. -/
def readValue? : (fuel : Nat) → List Token → Option (Value × List Token)
  | 0, _ => none
  | fuel + 1, tokens =>
    match tokens with
    | .text value _ :: rest => some (.text (String.ofList value), rest)
    | .word word :: rest => readWord? word rest
    | .plus :: .word word :: rest => readNumber? word rest
    | .openBracket :: rest => (readItems? fuel rest).map fun rest => (.list, rest)
    | .openBrace :: rest =>
      match skipBlanks rest with
      | .closeBrace :: rest => some (.table true, rest)
      | rest =>
        match readPairs? fuel [] rest with
        | some (pairs, rest) => if Pair.agree pairs then some (.table false, rest) else none
        | none => none
    | _ => none

/-- Reads the items of a list up to its end. -/
def readItems? : (fuel : Nat) → List Token → Option (List Token)
  | 0, _ => none
  | fuel + 1, tokens =>
    match skipLines? tokens with
    | none => none
    | some (.closeBracket :: rest) => some rest
    | some tokens =>
      match readValue? fuel tokens with
      | none => none
      | some (_, rest) =>
        match skipLines? rest with
        | some (.closeBracket :: rest) => some rest
        | some (.comma :: rest) => readItems? fuel rest
        | _ => none

/-- Reads the pairs of a table within a line up to its end, given those in front of them. -/
def readPairs? : (fuel : Nat) → List Pair → List Token → Option (List Pair × List Token)
  | 0, _, _ => none
  | fuel + 1, pairs, tokens =>
    match takeKey? fuel tokens with
    | some (key, .equals :: rest) =>
      match readValue? fuel (skipBlanks rest) with
      | none => none
      | some (value, rest) =>
        let pairs := pairs ++ [⟨key, value⟩]
        match skipBlanks rest with
        | .closeBrace :: rest => some (pairs, rest)
        | .comma :: rest => readPairs? fuel pairs rest
        | _ => none
    | _ => none

end

/-! ### Files -/

/-- Reads the line of a header behind its first bracket. -/
def readHeader? (fuel : Nat) (tokens : List Token) : Option (Section × List Token) :=
  match tokens with
  | .openBracket :: tokens => do
    let (header, rest) ← takeKey? fuel tokens
    match rest with
    | .closeBracket :: .closeBracket :: rest => return (⟨header, true, []⟩, ← endLine? rest)
    | _ => none
  | tokens => do
    let (header, rest) ← takeKey? fuel tokens
    match rest with
    | .closeBracket :: rest => return (⟨header, false, []⟩, ← endLine? rest)
    | _ => none

/-- Reads the line of a key. -/
def readPair? (fuel : Nat) (tokens : List Token) : Option (Pair × List Token) := do
  let (key, rest) ← takeKey? fuel tokens
  match rest with
  | .equals :: rest =>
    let (value, rest) ← readValue? fuel (skipBlanks rest)
    return (⟨key, value⟩, ← endLine? rest)
  | _ => none

/-- Reads the lines of a file into the open section, and then into further ones. -/
def readLines? : (fuel : Nat) → Section → List Token → Option (List Section)
  | 0, _, _ => none
  | fuel + 1, content, tokens => do
    match ← skipLines? tokens with
    | [] => return [content]
    | .openBracket :: rest =>
      let (next, rest) ← readHeader? fuel rest
      return content :: (← readLines? fuel next rest)
    | tokens =>
      let (pair, rest) ← readPair? fuel tokens
      readLines? fuel { content with pairs := content.pairs ++ [pair] } rest

/-- Reads a file. Every step takes a token or comes right behind one that did, so two steps for
each token and some at the end are enough. -/
def read? (text : String) : Option Entries := do
  let tokens ← tokens? text
  let sections ← readLines? (2 * tokens.length + 3) ⟨[], false, []⟩ tokens
  if Section.agree sections then some (Section.entries sections) else none

end SqlLedger.Configuration.Toml
