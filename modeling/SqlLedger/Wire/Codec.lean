/-
The wire format of values, as codecs that compose.

A codec is a writer together with a reader that consumes its value from the front of the input
and hands on the rest. Records are written field by field with nothing between, so the codec of a
record is the pairing of the codecs of its fields, seen through the record's constructor; lists
and texts are written behind their length as a 64-bit word. What follows a value is not the
codec's business, which is what makes pairing possible and lets messages carry trailing octets.

`Codec.Fits` names the values whose lengths their length words can hold; writing any other value
still yields octets, though not octets that read back.
-/

import SqlLedger.Bytes
import SqlLedger.Number.Double
import SqlLedger.Text.Utf8

namespace SqlLedger

/-! ### Why a value cannot be read -/

/-- Why the front of the input is no value of the expected shape. -/
inductive ReadFault
  /-- The input ends inside a word, a flag or a list. -/
  | endOfInput
  /-- A text or an octet string declares more octets than are left. -/
  | shortBlock
  /-- A flag is neither 0 nor 1. -/
  | badFlag (byte : UInt8)
  /-- A text is not UTF-8. -/
  | badText (fault : Utf8.Fault)
  /-- A choice between two kinds carries another index. -/
  | badChoice (index : UInt32)
  deriving DecidableEq, Repr

/-- The wording of a fault. A short block has no text of its own behind the common opening. -/
def ReadFault.message : ReadFault → String
  | .endOfInput => "io error: unexpected end of file"
  | .shortBlock => "io error: "
  | .badFlag byte => s!"invalid u8 while decoding bool, expected 0 or 1, found {byte.toNat}"
  | .badText fault => s!"string is not valid utf8: {fault.message}"
  | .badChoice index =>
    s!"invalid value: integer `{index.toNat}`, expected variant index 0 <= i < 2"

/-- The faults that more input could mend. -/
def ReadFault.isShort : ReadFault → Bool
  | .endOfInput | .shortBlock => true
  | _ => false

/-! ### Readers and codecs -/

/-- A reader takes a value from the front of the input and hands on the rest. -/
abbrev Reader (α : Type) := Bytes → Except ReadFault (α × Bytes)

/-- A writer and a reader for one type. -/
structure Codec (α : Type) where
  /-- The octets of a value. -/
  write : α → Bytes
  /-- Takes a value from the front of the input. -/
  read : Reader α
  /-- The values whose lengths fit their length words. -/
  Fits : α → Prop

namespace Codec

variable {α β : Type}

/-- Reads one value and ignores what follows it. -/
def decode (codec : Codec α) (bytes : Bytes) : Except ReadFault α :=
  (codec.read bytes).map Prod.fst

/-! ### Building blocks -/

/-- Takes exactly `count` octets. -/
def take (count : Nat) : Reader Bytes := fun bytes =>
  let taken := bytes.take count
  if taken.length < count then .error .endOfInput else .ok (taken, bytes.drop count)

/-- A word of `width` octets, least significant first, seen through a pair of conversions. -/
def word (width : Nat) (toNat : α → Nat) (ofNat : Nat → α) : Codec α where
  write value := Bytes.littleEndian width (toNat value)
  read bytes :=
    match take width bytes with
    | .error fault => .error fault
    | .ok (octets, rest) => .ok (ofNat (Bytes.littleEndianValue octets), rest)
  Fits _ := True

/-- The codec of a type that carries nothing. -/
def nothing : Codec Unit where
  write _ := []
  read bytes := .ok ((), bytes)
  Fits _ := True

/-- Two values, one behind the other. -/
def pair (first : Codec α) (second : Codec β) : Codec (α × β) where
  write value := first.write value.1 ++ second.write value.2
  read bytes :=
    match first.read bytes with
    | .error fault => .error fault
    | .ok (left, rest) =>
      match second.read rest with
      | .error fault => .error fault
      | .ok (right, rest) => .ok ((left, right), rest)
  Fits value := first.Fits value.1 ∧ second.Fits value.2

/-- A type seen as another one, such as a record as the tuple of its fields. -/
def along (parts : α → β) (build : β → α) (codec : Codec β) : Codec α where
  write value := codec.write (parts value)
  read bytes :=
    match codec.read bytes with
    | .error fault => .error fault
    | .ok (value, rest) => .ok (build value, rest)
  Fits value := codec.Fits (parts value)

/-! ### Scalars -/

/-- One octet. -/
def octet : Codec UInt8 := word 1 UInt8.toNat UInt8.ofNat

/-- An unsigned word of four octets. -/
def word32 : Codec UInt32 := word 4 UInt32.toNat UInt32.ofNat

/-- An unsigned word of eight octets. -/
def word64 : Codec UInt64 := word 8 UInt64.toNat UInt64.ofNat

/-- A signed word of eight octets, in two's complement. -/
def signed64 : Codec Int64 := along Int64.toUInt64 UInt64.toInt64 word64

/-- A double, by its bits. -/
def double : Codec Double := along Double.bits Double.mk word64

/-- A flag is one octet, 0 or 1. -/
def flag : Codec Bool where
  write value := [if value then 1 else 0]
  read bytes :=
    match bytes with
    | [] => .error .endOfInput
    | byte :: rest =>
      if byte = 0 then .ok (false, rest)
      else if byte = 1 then .ok (true, rest)
      else .error (.badFlag byte)
  Fits _ := True

/-! ### Lengths, octet strings, texts and lists -/

/-- The length word of a list or a text. -/
def lengthWord (length : Nat) : Bytes := Bytes.littleEndian 8 length

/-- Reads a length word. -/
def readLength : Reader Nat := fun bytes =>
  match take 8 bytes with
  | .error fault => .error fault
  | .ok (octets, rest) => .ok (Bytes.littleEndianValue octets, rest)

/-- An octet string behind its length. What is left has to be as long as declared. -/
def block : Codec Bytes where
  write value := lengthWord value.length ++ value
  read bytes :=
    match readLength bytes with
    | .error fault => .error fault
    | .ok (length, rest) =>
      let taken := rest.take length
      if taken.length < length then .error .shortBlock else .ok (taken, rest.drop length)
  Fits value := value.length < Bytes.wordCount 8

/-- A text is the octet string of its UTF-8 octets; the length is judged before the content. -/
def text : Codec String where
  write value := block.write (Utf8.encode value)
  read bytes :=
    match block.read bytes with
    | .error fault => .error fault
    | .ok (octets, rest) =>
      match Utf8.decode octets with
      | .error fault => .error (.badText fault)
      | .ok value => .ok (value, rest)
  Fits value := block.Fits (Utf8.encode value)

/-- Reads `count` values, and stops at the first that cannot be read. -/
def readMany (element : Reader α) : Nat → Reader (List α)
  | 0, bytes => .ok ([], bytes)
  | count + 1, bytes =>
    match element bytes with
    | .error fault => .error fault
    | .ok (first, rest) =>
      match readMany element count rest with
      | .error fault => .error fault
      | .ok (others, rest) => .ok (first :: others, rest)

/-- A list behind its length, element by element. -/
def list (element : Codec α) : Codec (List α) where
  write values := lengthWord values.length ++ values.flatMap element.write
  read bytes :=
    match readLength bytes with
    | .error fault => .error fault
    | .ok (count, rest) => readMany element.read count rest
  Fits values := values.length < Bytes.wordCount 8 ∧ ∀ value ∈ values, element.Fits value

/-- An octet string read octet by octet. It has the same octets as `block` and differs from it in
the fault it reports when the input is too short. -/
def octets : Codec Bytes := list octet

end Codec

end SqlLedger
