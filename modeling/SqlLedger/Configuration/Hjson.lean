/-
Settings in Hjson.

The format is JSON with less to write: names need no quotes, commas may be left out, comments are
allowed, and so is an object without its braces as the whole file. A value without quotes goes on
to the end of its line and is a text, unless it has already become a word for a value or a number
where a comma, a closing bracket or a comment stands.
-/

import SqlLedger.Configuration.Value
import SqlLedger.Json.Reader
import SqlLedger.Text.Blank

namespace SqlLedger.Configuration.Hjson

/-! ### Gaps -/

/-- Drops a comment up to the marks that end it. -/
def skipRemark? : List Char → Option (List Char)
  | '*' :: '/' :: rest => some rest
  | _ :: rest => skipRemark? rest
  | [] => none

/-- Drops blanks and comments. A slash that begins no comment is dropped as well, unless it is the
last character. Each step takes a character. -/
def skipGap? : (fuel : Nat) → List Char → Option (List Char)
  | _, [] => some []
  | 0, _ => none
  | fuel + 1, char :: rest =>
    if Json.isBlank char then skipGap? fuel rest
    else if char = '#' then skipGap? fuel (rest.dropWhile (· ≠ '\n'))
    else if char ≠ '/' then some (char :: rest)
    else
      match rest with
      | [] => none
      | '/' :: rest => skipGap? fuel (rest.dropWhile (· ≠ '\n'))
      | '*' :: rest =>
        match skipRemark? rest with
        | some rest => skipGap? fuel rest
        | none => none
      | rest => skipGap? fuel rest

/-- Drops blanks and comments up to the next character that counts. -/
def skip? (chars : List Char) : Option (List Char) :=
  skipGap? chars.length chars

/-! ### Names -/

/-- Characters that neither names nor values without quotes begin with, and names do not hold. -/
def isMark (char : Char) : Bool :=
  ['\x7b', '\x7d', '[', ']', ',', ':'].contains char

/-- Characters that end a name without quotes. -/
def endsName (char : Char) : Bool :=
  char ≤ ' '

/-- Takes a name without quotes up to its colon. Blanks may stand behind it, but not in it. -/
def takeBareName? (chars : List Char) : Option (String × List Char) :=
  let written := chars.takeWhile (· ≠ ':')
  let name := written.takeWhile (!endsName ·)
  let behind := written.drop name.length
  if name.isEmpty || written.any (fun char => isMark char || char = '\x00') ||
      !behind.all endsName then none
  else some (String.ofList name, chars.drop written.length)

/-- Takes a name with its colon. -/
def takeName? (chars : List Char) : Option (String × List Char) := do
  let (name, rest) ←
    match chars with
    | '"' :: rest =>
      (Json.readText? true rest).map fun (inside, rest) => (String.ofList inside, rest)
    | chars => takeBareName? chars
  match ← skip? rest with
  | ':' :: rest => some (name, rest)
  | _ => none

/-! ### Values without quotes -/

/-- The exponent of a number, which is zero if none is written. -/
def exponentOf (parts : Json.NumberParts) : Int :=
  match parts.exponent with
  | none => 0
  | some (true, digits) => -(Text.ofDigits 10 digits : Int)
  | some (false, digits) => Text.ofDigits 10 digits

/-- The value of a number, if it is an integer of 64 bits or no integer. One without a sign may
take all of the bits, and is negative if it takes the highest. -/
def number? (parts : Json.NumberParts) : Option Value :=
  if parts.fraction = none ∧ parts.exponent = none then
    let whole := Text.ofDigits 10 parts.whole
    if parts.negative then (Text.signed64? (-(whole : Int))).map .integer
    else if whole < UInt64.size then some (.integer (Int64.ofInt whole))
    else none
  else
    let fraction := parts.fraction.getD []
    some (.real (.ofDecimal parts.negative (Text.ofDigits 10 (parts.whole ++ fraction))
      (exponentOf parts - (fraction.length : Int))))

/-- What is written is a word for a value, or a number. -/
def word? (chars : List Char) : Option Value :=
  match String.ofList (Text.trimEnd chars) with
  | "true" => some (.boolean true)
  | "false" => some (.boolean false)
  | "null" => some .null
  | _ => do
    let (parts, rest) ← Json.NumberParts.read? chars
    if (← skip? rest).isEmpty then number? parts else none

/-- Characters that end a line. -/
def endsLine (char : Char) : Bool :=
  char = '\n' || char = '\r' || char = '\x00'

/-- Behind such a character, with what follows it, a word or a number is over. -/
def endsWord (char : Char) (rest : List Char) : Bool :=
  char = ',' || char = '\x7d' || char = ']' || char = '#' ||
    (char = '/' && rest.head?.any fun next => next = '/' || next = '*')

/-- Goes on reading a value without quotes behind what is written of it, the last character in
front. -/
def readBare (written : List Char) : List Char → Value × List Char
  | [] => (ended written, [])
  | char :: rest =>
    if endsLine char then (ended written, char :: rest)
    else
      match if endsWord char rest then word? written.reverse else none with
      | some value => (value, char :: rest)
      | none => readBare (char :: written) rest
where
  /-- The value at the end of its line. -/
  ended (written : List Char) : Value :=
    (word? written.reverse).getD (.text (String.ofList (Text.trim written.reverse)))

/-! ### Texts of several lines -/

/-- Blanks in front of a line. -/
def isIndentation (char : Char) : Bool :=
  char = ' ' || char = '\t' || char = '\r'

/-- Drops the blanks in front of a line, at most as many as are given, or all of them if none is
given. -/
def dropIndent (indent : Nat) (chars : List Char) : List Char :=
  let width := (chars.takeWhile isIndentation).length
  chars.drop (if indent = 0 then width else min width indent)

/-- Reads the lines of a text up to three single quotes. Carriage returns do not count. -/
def readLines? (indent : Nat) : (fuel : Nat) → List Char → Option (List Char × List Char)
  | 0, _ | _, [] => none
  | _, '\'' :: '\'' :: '\'' :: rest => some ([], rest)
  | fuel + 1, char :: rest =>
    let rest := if char = '\n' then dropIndent indent rest else rest
    (readLines? indent fuel rest).map fun (inside, rest) =>
      (if char = '\r' then inside else char :: inside, rest)

/-- Reads a text of several lines behind its three quotes. Its lines are taken from the column of
the quotes on. A line end right behind the quotes does not count, nor does one in front of the
closing ones. -/
def readBlock? (indent : Nat) (chars : List Char) : Option (List Char × List Char) := do
  let chars := chars.dropWhile isIndentation
  let chars :=
    match chars with
    | '\n' :: rest => dropIndent indent rest
    | chars => chars
  let (inside, rest) ← readLines? indent chars.length chars
  return (if inside.getLast? = some '\n' then inside.dropLast else inside, rest)

/-- The column where the rest of a source begins, counted in octets. -/
def columnOf (source rest : List Char) : Nat :=
  let before := source.take (source.length - rest.length)
  (before.reverse.takeWhile (· ≠ '\n')).foldl (fun width char => width + char.utf8Size) 0

/-! ### Values -/

/-- Drops a comma, which may be missing between two items, with what stands behind it. -/
def skipComma? (isFirst : Bool) (chars : List Char) : Option (List Char) :=
  match chars with
  | ',' :: rest => if isFirst then some chars else skip? rest
  | chars => some chars

mutual

/-- Reads the value at the front of a rest of the source that begins with no blank. -/
def readValue? (source : List Char) : (fuel : Nat) → List Char → Option (Value × List Char)
  | 0, _ | _, [] => none
  | fuel + 1, char :: rest =>
    match char, rest with
    | '"', rest =>
      (Json.readText? true rest).map fun (inside, rest) => (.text (String.ofList inside), rest)
    | '[', rest => (readItems? source true fuel rest).map fun rest => (.list, rest)
    | '\x7b', rest =>
      (readMembers? source false true fuel [] rest).map fun (members, rest) =>
        (.table members.isEmpty, rest)
    | '\'', '\'' :: '\'' :: rest =>
      (readBlock? (columnOf source (char :: '\'' :: '\'' :: rest)) rest).map
        fun (inside, rest) => (.text (String.ofList inside), rest)
    | char, rest =>
      if isMark char ∨ char = '\x00' then none else some (readBare [] (char :: rest))

/-- Reads the items of a list up to its end. -/
def readItems? (source : List Char) (isFirst : Bool) :
    (fuel : Nat) → List Char → Option (List Char)
  | 0, _ => none
  | fuel + 1, chars =>
    match (skip? chars).bind (skipComma? isFirst) with
    | none | some [] => none
    | some (']' :: rest) => some rest
    | some chars =>
      match readValue? source fuel chars with
      | some (_, rest) => readItems? source false fuel rest
      | none => none

/-- Reads the members of an object up to its end, given those in front of them. An object without
braces goes on to the end of the source. -/
def readMembers? (source : List Char) (isWhole isFirst : Bool) :
    (fuel : Nat) → Entries → List Char → Option (Entries × List Char)
  | 0, _, _ => none
  | fuel + 1, members, chars =>
    match (skip? chars).bind (skipComma? isFirst) with
    | none => none
    | some [] => if isWhole then some (members, []) else none
    | some ('\x7d' :: rest) => if isWhole then none else some (members, rest)
    | some chars =>
      match takeName? chars with
      | none => none
      | some (name, rest) =>
        match (skip? rest).bind (readValue? source fuel) with
        | some (value, rest) =>
          readMembers? source isWhole false fuel (members.put name value) rest
        | none => none

end

/-! ### Files -/

/-- Reads a file as an object without braces. -/
def readWhole? (fuel : Nat) (chars : List Char) : Option Entries := do
  if (← skip? chars).isEmpty then none
  let (members, _) ← readMembers? chars true true fuel [] chars
  return members

/-- Reads a file as one value. Only an object has entries. -/
def readSingle? (fuel : Nat) (chars : List Char) : Option Entries := do
  match ← skip? chars with
  | '\x7b' :: rest =>
    let (members, rest) ← readMembers? chars false true fuel [] rest
    if (← skip? rest).isEmpty then some members else none
  | start =>
    let (_, rest) ← readValue? chars fuel start
    if (← skip? rest).isEmpty then some [] else none

/-- Reads a file. Each step but one for each value takes a character. -/
def read? (text : String) : Option Entries :=
  let chars := text.toList
  let fuel := 2 * chars.length + 2
  (readWhole? fuel chars).or (readSingle? fuel chars)

end SqlLedger.Configuration.Hjson
