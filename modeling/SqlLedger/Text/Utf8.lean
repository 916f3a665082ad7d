/-
Text on the wire is UTF-8, and this file decides which byte strings are text.

One function, `step`, looks at the head of a byte string and says what stands there: a whole
character, octets that no character can begin with, or a character that the input cuts short.
Strict reading and lenient reading are two walks over `step`. Strict reading stops at the first
fault and reports its place and width; lenient reading writes the replacement character for each
ill-formed part and goes on. An ill-formed part is as long as the longest beginning of some
character, so a sequence is blamed up to, and without, the first octet that rules it out.
-/

import SqlLedger.Bytes

namespace SqlLedger.Utf8

/-! ### Where a byte string stops being text -/

/-- Why a byte string is not text: an ill-formed part of known width, or a character that the
end of the input cuts short. Both carry the offset of the part's first octet. -/
inductive Fault
  | invalid (width index : Nat)
  | incomplete (index : Nat)
  deriving DecidableEq, Repr

/-- The wording of a fault. -/
def Fault.message : Fault → String
  | .invalid width index =>
    s!"invalid utf-8 sequence of {width} bytes from index {index}"
  | .incomplete index => s!"incomplete utf-8 byte sequence from index {index}"

/-- What stands at the head of a nonempty byte string. A character counts the octets after its
first one; an ill-formed part counts all its octets but the first. -/
inductive Step
  | scalar (char : Char) (following : Nat)
  | invalid (following : Nat)
  | incomplete
  deriving DecidableEq, Repr

/-- Continuation octets carry six bits under the mark `10`. -/
def isContinuation (byte : UInt8) : Bool :=
  0x80 ≤ byte && byte ≤ 0xBF

/-- The six bits a continuation octet carries. -/
def payload (byte : UInt8) : Nat :=
  byte.toNat % 64

/-- The octets that may follow the first octet of a longer character. The bounds exclude spellings
that a shorter form covers, the surrogates, and all that lies above the last code point. -/
def allowsSecond (first second : UInt8) : Bool :=
  if first = 0xE0 then 0xA0 ≤ second && second ≤ 0xBF
  else if first = 0xED then 0x80 ≤ second && second ≤ 0x9F
  else if first = 0xF0 then 0x90 ≤ second && second ≤ 0xBF
  else if first = 0xF4 then 0x80 ≤ second && second ≤ 0x8F
  else isContinuation second

/-- Reads the head of a byte string whose first octet is `first`. -/
def step (first : UInt8) (rest : Bytes) : Step :=
  if first < 0x80 then
    .scalar (Char.ofNat first.toNat) 0
  else if 0xC2 ≤ first && first ≤ 0xDF then
    match rest with
    | [] => .incomplete
    | second :: _ =>
      if allowsSecond first second then
        .scalar (Char.ofNat (first.toNat % 32 * 64 + payload second)) 1
      else .invalid 0
  else if 0xE0 ≤ first && first ≤ 0xEF then
    match rest with
    | [] => .incomplete
    | second :: rest =>
      if allowsSecond first second then
        match rest with
        | [] => .incomplete
        | third :: _ =>
          if isContinuation third then
            .scalar (Char.ofNat
              (first.toNat % 16 * 4096 + payload second * 64 + payload third)) 2
          else .invalid 1
      else .invalid 0
  else if 0xF0 ≤ first && first ≤ 0xF4 then
    match rest with
    | [] => .incomplete
    | second :: rest =>
      if allowsSecond first second then
        match rest with
        | [] => .incomplete
        | third :: rest =>
          if isContinuation third then
            match rest with
            | [] => .incomplete
            | fourth :: _ =>
              if isContinuation fourth then
                .scalar (Char.ofNat (first.toNat % 8 * 262144 + payload second * 4096
                  + payload third * 64 + payload fourth)) 3
              else .invalid 2
          else .invalid 1
      else .invalid 0
  else .invalid 0

/-! ### Writing and reading -/

/-- The octets of characters, one after the other. -/
def encodeChars (chars : List Char) : Bytes :=
  chars.flatMap String.utf8EncodeChar

/-- The octets of a text. -/
def encode (text : String) : Bytes :=
  encodeChars text.toList

/-- Strict reading of what follows the first `index` octets. -/
def decodeChars (index : Nat) (bytes : Bytes) : Except Fault (List Char) :=
  match bytes with
  | [] => .ok []
  | first :: rest =>
    match step first rest with
    | .scalar char following =>
      (decodeChars (index + following + 1) (rest.drop following)).map (char :: ·)
    | .invalid following => .error (.invalid (following + 1) index)
    | .incomplete => .error (.incomplete index)
termination_by bytes.length
decreasing_by simp only [List.length_drop, List.length_cons]; omega

/-- Strict reading: the text whose octets these are, or the first fault. -/
def decode (bytes : Bytes) : Except Fault String :=
  (decodeChars 0 bytes).map String.ofList

/-- The character that stands for an ill-formed part. -/
def replacement : Char := '\uFFFD'

/-- Lenient reading, character by character. -/
def decodeLossyChars (bytes : Bytes) : List Char :=
  match bytes with
  | [] => []
  | first :: rest =>
    match step first rest with
    | .scalar char following => char :: decodeLossyChars (rest.drop following)
    | .invalid following => replacement :: decodeLossyChars (rest.drop following)
    | .incomplete => [replacement]
termination_by bytes.length
decreasing_by all_goals (simp only [List.length_drop, List.length_cons]; omega)

/-- Lenient reading: each ill-formed part becomes one replacement character, and a character cut
short by the end of the input becomes one as well. -/
def decodeLossy (bytes : Bytes) : String :=
  String.ofList (decodeLossyChars bytes)

end SqlLedger.Utf8
