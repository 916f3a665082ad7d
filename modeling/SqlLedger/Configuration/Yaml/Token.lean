/-
The tokens of YAML, and those of them that are neither marks nor scalars.

An anchor names the node behind it, an alias stands for the node with its name, and a tag says what
a plain scalar is to be read as. Directives stand in front of a document and do not matter, but
they have to be well formed.
-/

import SqlLedger.Configuration.Yaml.Scalar

namespace SqlLedger.Configuration.Yaml

/-- What a tag asks for; `other` asks for a text. -/
inductive Tag
  | boolean
  | integer
  | real
  | null
  | other
  deriving DecidableEq, Repr

/-- The tokens of a text. Those that begin and end block collections come from the indentation. -/
inductive Token
  | directive
  | documentStart
  | documentEnd
  | blockSequenceStart
  | blockMappingStart
  | blockEnd
  | flowSequenceStart
  | flowSequenceEnd
  | flowMappingStart
  | flowMappingEnd
  | blockEntry
  | flowEntry
  | key
  | value
  | anchor (name : List Char)
  | alias (name : List Char)
  | tag (tag : Tag)
  | scalar (text : List Char) (isPlain : Bool)
  deriving DecidableEq, Repr

/-! ### Anchors -/

/-- Takes the name of an anchor or an alias. -/
def takeAnchorName? (chars : List Char) : Option (List Char × List Char) :=
  let name := chars.takeWhile isNameChar
  let rest := chars.drop name.length
  let isOver := startsGap rest || rest.head?.any
    (fun char => "?:,]\x7d%@\x60".toList.contains char)
  if name.isEmpty || !isOver then none else some (name, rest)

/-! ### Tags -/

/-- Takes a percent sign with the octet that two hexadecimal digits spell. -/
def takeOctet? : List Char → Option (Nat × List Char)
  | '%' :: high :: low :: rest => do
    return (← Text.numberIn? 16 [high, low], rest)
  | _ => none

/-- Takes a character that is spelled by octets. Two octets are taken for a character with both of
them as its code point, and more than two never make a character. -/
def takeSpelled? (chars : List Char) : Option (Char × List Char) := do
  let (first, rest) ← takeOctet? chars
  if first < 0x80 then return (Char.ofNat first, rest)
  else if first < 0xC0 ∨ 0xE0 ≤ first then none
  else
    let (second, rest) ← takeOctet? rest
    let code := first * 256 + second
    if 0x80 ≤ second ∧ second < 0xC0 ∧ code.isValidChar then return (Char.ofNat code, rest)
    else none

/-- Characters of addresses, apart from the percent sign. -/
def isAddressChar (char : Char) : Bool :=
  isNameChar char || ";/?:@&=+$,.!~*'()[]".toList.contains char

/-- Takes an address, which may be empty. -/
def takeAddress? : (fuel : Nat) → List Char → Option (List Char × List Char)
  | 0, _ => none
  | _, [] => some ([], [])
  | fuel + 1, char :: rest =>
    if char = '%' then do
      let (char, rest) ← takeSpelled? (char :: rest)
      let (more, rest) ← takeAddress? fuel rest
      return (char :: more, rest)
    else if isAddressChar char then do
      let (more, rest) ← takeAddress? fuel rest
      return (char :: more, rest)
    else some ([], char :: rest)

/-- Takes an address of one character at least. -/
def takeFullAddress? (chars : List Char) : Option (List Char × List Char) :=
  match takeAddress? (chars.length + 1) chars with
  | some ([], _) => none
  | taken => taken

/-- What the name of a tag of the standard kind asks for. -/
def Tag.ofName (name : List Char) : Tag :=
  match String.ofList name with
  | "bool" => .boolean
  | "int" => .integer
  | "float" => .real
  | "null" => .null
  | _ => .other

/-- Takes a tag behind its exclamation mark, which is an address between angle brackets, a name of
the standard kind behind a second exclamation mark, a name with a handle in front, or a name that
may be empty. -/
def takeTag? (chars : List Char) : Option (Tag × List Char) := do
  let handle := chars.takeWhile isNameChar
  let (tag, rest) ←
    match chars, chars.drop handle.length with
    | '<' :: rest, _ => do
      match ← takeFullAddress? rest with
      | (_, '>' :: rest) => some (Tag.other, rest)
      | _ => none
    | _, '!' :: rest => do
      let (name, rest) ← takeFullAddress? rest
      some (if handle.isEmpty then Tag.ofName name else Tag.other, rest)
    | _, rest => do
      let (_, rest) ← takeAddress? (rest.length + 1) rest
      some (Tag.other, rest)
  if startsGap rest then some (tag, rest) else none

/-! ### Directives -/

/-- Takes a part of a version: from one to nine digits. -/
def takeVersionPart? (chars : List Char) : Option (List Char) :=
  let digits := (chars.takeWhile Char.isDigit).length
  if digits = 0 ∨ 9 < digits then none else some (chars.drop digits)

/-- Takes a version: two numbers with a point between. -/
def takeVersion? (chars : List Char) : Option (List Char) := do
  match ← takeVersionPart? chars with
  | '.' :: rest => takeVersionPart? rest
  | _ => none

/-- Takes the handle of a tag and the address it stands for. -/
def takeTagDefinition? (chars : List Char) : Option (List Char) := do
  match chars with
  | '!' :: rest =>
    let name := rest.takeWhile isNameChar
    let rest ←
      match rest.drop name.length with
      | '!' :: rest => some rest
      | rest => if name.isEmpty then some rest else none
    let (_, rest) ← takeFullAddress? (rest.dropWhile isBlank)
    if startsGap rest then some rest else none
  | _ => none

/-- Takes a directive behind its percent sign. One of an unknown name goes on to the end of its
line. -/
def takeDirective? (chars : List Char) : Option (List Char) :=
  let name := chars.takeWhile isNameChar
  let rest := chars.drop name.length
  if name.isEmpty || !startsGap rest then none
  else
    match String.ofList name with
    | "YAML" => takeVersion? (rest.dropWhile isBlank)
    | "TAG" => takeTagDefinition? (rest.dropWhile isBlank)
    | _ => some (rest.dropWhile (!isBreak ·))

end SqlLedger.Configuration.Yaml
