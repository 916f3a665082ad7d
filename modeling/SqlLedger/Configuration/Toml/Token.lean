/-
The tokens of TOML.

A file is cut into tokens before anything is made of them. Blanks, comments and the ends of lines
are tokens too, since the format says where they may stand. A character that begins no token, a
text without its end and a text with a character that has to be escaped make the file unreadable.
-/

import SqlLedger.Text.CodePoint

namespace SqlLedger.Configuration.Toml

/-- The tokens of a file. -/
inductive Token
  | blanks (chars : List Char)
  | lineEnd
  | comment
  | equals
  | period
  | comma
  | colon
  | plus
  | openBrace
  | closeBrace
  | openBracket
  | closeBracket
  /-- Letters, digits, underscores and hyphens: a key, a number, or a part of one. -/
  | word (chars : List Char)
  | text (value : List Char) (isMultiline : Bool)
  deriving DecidableEq, Repr

/-! ### Characters -/

/-- Blanks within a line. -/
def isBlank (char : Char) : Bool :=
  char = ' ' || char = '\t'

/-- Characters of words. -/
def isWordChar (char : Char) : Bool :=
  char.isAlphanum || char = '_' || char = '-'

/-- Control characters, which comments do not hold. -/
def isControl (char : Char) : Bool :=
  char < ' ' && char ≠ '\t'

/-- The ends of lines as a line feed alone. -/
def foldLineEnds : List Char → List Char
  | [] => []
  | '\r' :: '\n' :: rest => '\n' :: foldLineEnds rest
  | char :: rest => char :: foldLineEnds rest

/-! ### Texts -/

/-- How a text is written: with which quote, and whether with three of them and over lines. -/
structure TextStyle where
  quote : Char
  isMultiline : Bool
  deriving DecidableEq, Repr

/-- Goes on behind a backslash that ends a line: blanks and line ends are dropped up to the next
character. Blanks may stand between the backslash and the end of its line. -/
def foldLines? (chars : List Char) : Option (List Char) :=
  match chars.dropWhile isBlank with
  | [] => some []
  | '\n' :: rest => some (rest.dropWhile fun char => isBlank char || char = '\n')
  | _ => none

/-- Takes what follows a backslash, and what it stands for. -/
def takeEscape? (isMultiline : Bool) : List Char → Option (List Char × List Char)
  | '"' :: rest => some (['"'], rest)
  | '\\' :: rest => some (['\\'], rest)
  | 'b' :: rest => some (['\x08'], rest)
  | 'f' :: rest => some (['\x0c'], rest)
  | 'n' :: rest => some (['\n'], rest)
  | 'r' :: rest => some (['\r'], rest)
  | 't' :: rest => some (['\t'], rest)
  | 'u' :: rest => (Text.takeCodePoint? 4 rest).map fun (char, rest) => ([char], rest)
  | 'U' :: rest => (Text.takeCodePoint? 8 rest).map fun (char, rest) => ([char], rest)
  | chars => if isMultiline then (foldLines? chars).map fun rest => ([], rest) else none

/-- Takes the end of a multi-line text behind its first quote. Of five quotes the first two belong
to the text. -/
def takeClosing? (quote : Char) (chars : List Char) : Option (List Char × List Char) :=
  let further := (chars.takeWhile (· = quote)).length
  if further < 2 then none
  else
    let inside := min (further - 2) 2
    some (List.replicate inside quote, chars.drop (inside + 2))

/-- Reads the inside of a text up to its end. Only double quotes allow for escapes. -/
def readInside? (style : TextStyle) : (fuel : Nat) → List Char → Option (List Char × List Char)
  | 0, _ | _, [] => none
  | fuel + 1, char :: rest =>
    let goOn (inside rest : List Char) :=
      (readInside? style fuel rest).map fun (more, rest) => (inside ++ more, rest)
    if char = style.quote then
      if style.isMultiline then
        match takeClosing? style.quote rest with
        | some ending => some ending
        | none => goOn [char] rest
      else some ([], rest)
    else if char = '\\' ∧ style.quote = '"' then
      match takeEscape? style.isMultiline rest with
      | some (inside, rest) => goOn inside rest
      | none => none
    else if char = '\n' then
      if style.isMultiline then goOn [char] rest else none
    else if isControl char ∨ char = '\x7f' then none
    else goOn [char] rest

/-- Reads a text behind its first quote. A line end right behind three quotes does not count. -/
def readText? (quote : Char) (chars : List Char) : Option (Token × List Char) :=
  let read (style : TextStyle) (chars : List Char) :=
    (readInside? style chars.length chars).map fun (value, rest) =>
      (Token.text value style.isMultiline, rest)
  match chars with
  | second :: third :: rest =>
    if second = quote ∧ third = quote then
      match rest with
      | '\n' :: rest => read ⟨quote, true⟩ rest
      | rest => read ⟨quote, true⟩ rest
    else read ⟨quote, false⟩ chars
  | chars => read ⟨quote, false⟩ chars

/-! ### Files -/

/-- The token that a character is by itself. -/
def ofMark? (char : Char) : Option Token :=
  match char with
  | '\n' => some .lineEnd
  | '=' => some .equals
  | '.' => some .period
  | ',' => some .comma
  | ':' => some .colon
  | '+' => some .plus
  | '\x7b' => some .openBrace
  | '\x7d' => some .closeBrace
  | '[' => some .openBracket
  | ']' => some .closeBracket
  | _ => none

/-- Takes the token that a character begins. -/
def takeToken? (char : Char) (rest : List Char) : Option (Token × List Char) :=
  match ofMark? char with
  | some token => some (token, rest)
  | none =>
    if isBlank char then some (.blanks (char :: rest.takeWhile isBlank), rest.dropWhile isBlank)
    else if isWordChar char then
      some (.word (char :: rest.takeWhile isWordChar), rest.dropWhile isWordChar)
    else if char = '#' then some (.comment, rest.dropWhile fun char => !isControl char)
    else if char = '"' ∨ char = '\'' then readText? char rest
    else none

/-- Cuts a text into tokens; every token takes a character. -/
def cut? : (fuel : Nat) → List Char → Option (List Token)
  | _, [] => some []
  | 0, _ => none
  | fuel + 1, char :: rest => do
    let (token, rest) ← takeToken? char rest
    return token :: (← cut? fuel rest)

/-- The tokens of a file. A byte order mark in front of it does not count. -/
def tokens? (text : String) : Option (List Token) :=
  let chars := foldLineEnds text.toList
  match chars with
  | '\ufeff' :: rest => cut? rest.length rest
  | chars => cut? chars.length chars

end SqlLedger.Configuration.Toml
