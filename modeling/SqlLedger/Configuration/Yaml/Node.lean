/-
The nodes of a YAML document.

A node is a scalar, a sequence or a mapping. Settings need of a sequence only that it stands there,
and of a mapping only the entries whose keys are texts. Keys and values may be left out, and count
as nothing then; an anchor or a tag alone makes an empty text. A double without a value makes the
collections without a value that it is an item or a value of, unless the entry is replaced or its
key is no text.

The readers of this module take a node, or what is left of a collection, from the front of the
tokens, and keep account of the anchors on their way. Their fuel bounds the number of steps.
-/

import SqlLedger.Configuration.Yaml.Lexer
import SqlLedger.Configuration.Yaml.Spelling

namespace SqlLedger.Configuration.Yaml

/-- What stands at a place of a document. -/
inductive Node
  /-- Neither a value nor nothing: a scalar that does not go with its tag, or a part of itself. -/
  | undefined
  /-- A double that settings have no value for, or a collection with one in it. -/
  | valueless
  | scalar (value : Value)
  | sequence
  | mapping (entries : Entries)
  deriving DecidableEq, Repr

/-- The node where nothing stands. -/
def Node.empty : Node := .scalar .null

/-- A node as a value of settings, if it has one. -/
def Node.value? : Node → Option Value
  | undefined => some .null
  | valueless => none
  | scalar value => some value
  | sequence => some .list
  | mapping entries => some (.table entries.isEmpty)

/-- The node of a scalar. -/
def Node.ofScalar (tag : Option Tag) (text : List Char) (isPlain : Bool) : Node :=
  if !isPlain then .scalar (.text (String.ofList text))
  else if isPointedWord tag text then .valueless
  else
    match tag with
    | none => .scalar (plainValue text)
    | some tag => ((taggedValue? tag text).map .scalar).getD .undefined

/-- The named nodes of a mapping, given its keys and values one after the other. A later one
replaces an earlier one of the same name. What is undefined is no key, and leaves its place to the
next node. -/
def membersOf (members : List (String × Node)) : List Node → List (String × Node)
  | .undefined :: rest => membersOf members rest
  | .scalar (.text key) :: value :: rest =>
    membersOf (members.filter (·.1 ≠ key) ++ [(key, value)]) rest
  | _ :: _ :: rest => membersOf members rest
  | [_] | [] => members

/-- The node of a mapping, given its keys and values one after the other. -/
def Node.ofPairs (nodes : List Node) : Node :=
  match (membersOf [] nodes).mapM fun (key, node) => node.value?.map (key, ·) with
  | some entries => .mapping entries
  | none => .valueless

/-- The node of a sequence. -/
def Node.ofItems (items : List Node) : Node :=
  if items.contains .valueless then .valueless else .sequence

/-! ### Anchors -/

/-- The anchors so far, each with its node, which is undefined as long as the node is read. -/
abbrev Anchors := List (List Char × Node)

/-- The node that the last anchor with a name belongs to. -/
def Anchors.find? (anchors : Anchors) (name : List Char) : Option Node :=
  (anchors.reverse.find? fun anchor => anchor.1 = name).map (·.2)

/-- What stands in front of a node: the number of its anchor, and its tag. -/
structure Properties where
  anchor : Option Nat := none
  tag : Option Tag := none
  deriving DecidableEq, Repr

/-- Tokens that are left, and the anchors so far. -/
structure Reading where
  tokens : List Token
  anchors : Anchors := []
  deriving DecidableEq, Repr

namespace Reading

/-- Goes on with other tokens. -/
def withTokens (reading : Reading) (tokens : List Token) : Reading :=
  { reading with tokens := tokens }

/-- Goes on with other tokens behind a new anchor. -/
def anchored (reading : Reading) (name : List Char) (tokens : List Token) : Reading :=
  ⟨tokens, reading.anchors ++ [(name, .undefined)]⟩

/-- Takes an anchor, a tag, or both in either order. -/
def takeProperties (reading : Reading) : Properties × Reading :=
  let number := reading.anchors.length
  match reading.tokens with
  | .anchor name :: .tag tag :: rest | .tag tag :: .anchor name :: rest =>
    (⟨some number, some tag⟩, reading.anchored name rest)
  | .anchor name :: rest => (⟨some number, none⟩, reading.anchored name rest)
  | .tag tag :: rest => (⟨none, some tag⟩, reading.withTokens rest)
  | _ => ({}, reading)

/-- Gives an anchor its node. -/
def settle (properties : Properties) (taken : Node × Reading) : Node × Reading :=
  let (node, reading) := taken
  match properties.anchor with
  | none => taken
  | some number =>
    (node, { reading with anchors := reading.anchors.modify number fun anchor => (anchor.1, node) })

/-- One of some tokens comes next. -/
def isAt (reading : Reading) (tokens : List Token) : Bool :=
  reading.tokens.head?.any tokens.contains

/-- Nothing stands here. -/
def takeNothing (reading : Reading) : Option (Node × Reading) :=
  some (.empty, reading)

end Reading

/-! ### Nodes -/

/-- Tokens that a block mapping goes on with, or ends. -/
def Token.blockMarks : List Token := [.key, .value, .blockEnd]

mutual

/-- Reads a node. Block collections begin only where they may, and a sequence without an
indentation of its own only as a part of a block mapping. -/
def readNode? (inBlock inMapping : Bool) : (fuel : Nat) → Reading → Option (Node × Reading)
  | 0, _ => none
  | fuel + 1, reading =>
    match reading.tokens with
    | .alias name :: rest =>
      (reading.anchors.find? name).map fun node => (node, reading.withTokens rest)
    | _ =>
      let (properties, reading) := reading.takeProperties
      (readContent? inBlock inMapping fuel properties reading).map (Reading.settle properties)

/-- Reads a node behind its properties. -/
def readContent? (inBlock inMapping : Bool) :
    (fuel : Nat) → Properties → Reading → Option (Node × Reading)
  | 0, _, _ => none
  | fuel + 1, properties, reading =>
    let mapping (taken : List Node × Reading) : Node × Reading := (.ofPairs taken.1, taken.2)
    let sequence (taken : List Node × Reading) : Node × Reading := (.ofItems taken.1, taken.2)
    match reading.tokens, inBlock, inMapping with
    | .blockEntry :: _, _, true => (readOpenItems? fuel reading).map sequence
    | .scalar text isPlain :: rest, _, _ =>
      some (.ofScalar properties.tag text isPlain, reading.withTokens rest)
    | .flowSequenceStart :: rest, _, _ =>
      (readFlowItems? true fuel (reading.withTokens rest)).map sequence
    | .flowMappingStart :: rest, _, _ =>
      (readFlowPairs? true fuel (reading.withTokens rest)).map mapping
    | .blockSequenceStart :: rest, true, _ =>
      (readItems? fuel (reading.withTokens rest)).map sequence
    | .blockMappingStart :: rest, true, _ =>
      (readPairs? fuel (reading.withTokens rest)).map mapping
    | _, _, _ =>
      if properties = {} then none else some (.ofScalar properties.tag [] true, reading)

/-- Reads the items of a block sequence that has no indentation of its own. -/
def readOpenItems? : (fuel : Nat) → Reading → Option (List Node × Reading)
  | 0, _ => none
  | fuel + 1, reading =>
    match reading.tokens with
    | .blockEntry :: rest =>
      let reading := reading.withTokens rest
      let item := if reading.isAt (.blockEntry :: Token.blockMarks) then reading.takeNothing
        else readNode? true false fuel reading
      match item with
      | some (item, reading) =>
        (readOpenItems? fuel reading).map fun (more, reading) => (item :: more, reading)
      | none => none
    | _ => some ([], reading)

/-- Reads the items of a block sequence up to its end. -/
def readItems? : (fuel : Nat) → Reading → Option (List Node × Reading)
  | 0, _ => none
  | fuel + 1, reading =>
    match reading.tokens with
    | .blockEnd :: rest => some ([], reading.withTokens rest)
    | .blockEntry :: rest =>
      let reading := reading.withTokens rest
      let item := if reading.isAt [.blockEntry, .blockEnd] then reading.takeNothing
        else readNode? true false fuel reading
      match item with
      | some (item, reading) =>
        (readItems? fuel reading).map fun (more, reading) => (item :: more, reading)
      | none => none
    | _ => none

/-- Reads the keys and values of a block mapping up to its end. -/
def readPairs? : (fuel : Nat) → Reading → Option (List Node × Reading)
  | 0, _ => none
  | fuel + 1, reading =>
    let key :=
      match reading.tokens with
      | .key :: rest => readBlockPart? fuel (reading.withTokens rest)
      | .value :: _ => reading.takeNothing
      | _ => none
    match reading.tokens, key with
    | .blockEnd :: rest, _ => some ([], reading.withTokens rest)
    | _, none => none
    | _, some (key, reading) =>
      let value :=
        match reading.tokens with
        | .value :: rest => readBlockPart? fuel (reading.withTokens rest)
        | _ => reading.takeNothing
      match value with
      | none => none
      | some (value, reading) =>
        (readPairs? fuel reading).map fun (more, reading) => (key :: value :: more, reading)

/-- Reads a key or a value of a block mapping behind its mark. -/
def readBlockPart? : (fuel : Nat) → Reading → Option (Node × Reading)
  | 0, _ => none
  | fuel + 1, reading =>
    if reading.isAt Token.blockMarks then reading.takeNothing else readNode? true true fuel reading

/-- Reads the items of a sequence in brackets up to its end, which may be a comma away. -/
def readFlowItems? (isFirst : Bool) : (fuel : Nat) → Reading → Option (List Node × Reading)
  | 0, _ => none
  | fuel + 1, reading =>
    let goOn (taken : Option (Node × Reading)) : Option (List Node × Reading) :=
      match taken with
      | none => none
      | some (item, reading) =>
        (readFlowItems? false fuel reading).map fun (more, reading) => (item :: more, reading)
    let item (reading : Reading) : Option (List Node × Reading) :=
      match reading.tokens with
      | .flowSequenceEnd :: rest => some ([], reading.withTokens rest)
      | .key :: rest => goOn (readSinglePair? fuel (reading.withTokens rest))
      | _ => goOn (readNode? false false fuel reading)
    match reading.tokens, isFirst with
    | .flowSequenceEnd :: rest, _ => some ([], reading.withTokens rest)
    | .flowEntry :: rest, false => item (reading.withTokens rest)
    | _, false => none
    | _, true => item reading

/-- Reads a key and a value that are an item of a sequence in brackets. Where the key is left out,
the token behind it is passed over. -/
def readSinglePair? : (fuel : Nat) → Reading → Option (Node × Reading)
  | 0, _ => none
  | fuel + 1, reading =>
    let key :=
      match reading.tokens with
      | .value :: rest | .flowEntry :: rest | .flowSequenceEnd :: rest =>
        (reading.withTokens rest).takeNothing
      | _ => readNode? false false fuel reading
    match key with
    | none => none
    | some (key, reading) =>
      let value :=
        match reading.tokens with
        | .value :: rest =>
          let reading := reading.withTokens rest
          if reading.isAt [.flowEntry, .flowSequenceEnd] then reading.takeNothing
          else readNode? false false fuel reading
        | _ => reading.takeNothing
      value.map fun (value, reading) => (.ofPairs [key, value], reading)

/-- Reads the keys and values of a mapping in braces up to its end, which may be a comma away. -/
def readFlowPairs? (isFirst : Bool) : (fuel : Nat) → Reading → Option (List Node × Reading)
  | 0, _ => none
  | fuel + 1, reading =>
    let goOn (key : Node) (taken : Option (Node × Reading)) : Option (List Node × Reading) :=
      match taken with
      | none => none
      | some (value, reading) =>
        (readFlowPairs? false fuel reading).map fun (more, reading) =>
          (key :: value :: more, reading)
    let pair (reading : Reading) : Option (List Node × Reading) :=
      match reading.tokens with
      | .flowMappingEnd :: rest => some ([], reading.withTokens rest)
      | .value :: _ => goOn .empty (readFlowValue? fuel reading)
      | .key :: rest =>
        let reading := reading.withTokens rest
        let key := if reading.isAt [.value, .flowEntry, .flowMappingEnd] then reading.takeNothing
          else readNode? false false fuel reading
        match key with
        | none => none
        | some (key, reading) => goOn key (readFlowValue? fuel reading)
      | _ =>
        match readNode? false false fuel reading with
        | none => none
        | some (key, reading) => goOn key reading.takeNothing
    match reading.tokens, isFirst with
    | .flowMappingEnd :: rest, _ => some ([], reading.withTokens rest)
    | .flowEntry :: rest, false => pair (reading.withTokens rest)
    | _, false => none
    | _, true => pair reading

/-- Reads the value of a mapping in braces, with its colon, if there is one. -/
def readFlowValue? : (fuel : Nat) → Reading → Option (Node × Reading)
  | 0, _ => none
  | fuel + 1, reading =>
    match reading.tokens with
    | .value :: rest =>
      let reading := reading.withTokens rest
      if reading.isAt [.flowEntry, .flowMappingEnd] then reading.takeNothing
      else readNode? false false fuel reading
    | _ => reading.takeNothing

end

end SqlLedger.Configuration.Yaml
