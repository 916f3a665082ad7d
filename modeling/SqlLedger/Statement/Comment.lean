/-
The envelope in a statement's comment.

A signed statement carries its signature, the transaction it belongs to and the signer's public
key in its first comment, each as a base64 text between a marker and a semicolon. The value of a
marker is looked for from left to right: the first place where the marker is followed by one or
more characters other than a semicolon and then a semicolon. A marker that stands nowhere so
leaves its field empty. If any of the three values cannot be decoded there is no envelope at all.
-/

import SqlLedger.Base64
import SqlLedger.Text.Utf8

namespace SqlLedger

/-- The parts of a comment envelope. -/
inductive CommentField
  | signature
  | transaction
  | publicKey
  deriving DecidableEq, Repr

namespace CommentField

/-- The text that announces a part. -/
def marker : CommentField → String
  | signature => "SIGN:"
  | transaction => "DATA:"
  | publicKey => "PUBKEY:"

/-- How a part is called in a complaint. -/
def title : CommentField → String
  | signature => "signature"
  | transaction => "transaction data"
  | publicKey => "public key"

end CommentField

/-- What the first comment of a statement says. -/
structure CommentEnvelope where
  publicKey : Bytes := []
  signature : Bytes := []
  transaction : Bytes := []
  deriving DecidableEq, Repr

namespace CommentEnvelope

/-- A part of the envelope that is not base64. -/
structure Fault where
  field : CommentField
  cause : Base64.Fault
  deriving DecidableEq, Repr

/-- The wording of a fault. -/
def Fault.message (fault : Fault) : String :=
  s!"malformed {fault.field.title} in the comment envelope: {fault.cause.message}"

/-! ### Finding the value of a marker -/

/-- What stands between the front of a text and the first semicolon, if that is anything and the
semicolon is there. -/
def valueAtFront? (chars : List Char) : Option (List Char) :=
  let value := chars.takeWhile (· ≠ ';')
  if value.isEmpty ∨ value.length = chars.length then none else some value

/-- The value of a marker that stands at the front of a text. -/
def valueAfter? (marker chars : List Char) : Option (List Char) :=
  if marker.isPrefixOf chars then valueAtFront? (chars.drop marker.length) else none

/-- The value of the first place, from the left, where a marker has one. -/
def locate? (marker : List Char) : List Char → Option (List Char)
  | [] => none
  | char :: rest =>
    match valueAfter? marker (char :: rest) with
    | some value => some value
    | none => locate? marker rest

/-! ### Reading the envelope -/

/-- The octets of one part, none if the part is absent. -/
def readField (comment : String) (field : CommentField) : Except Fault Bytes :=
  match locate? field.marker.toList comment.toList with
  | none => .ok []
  | some value =>
    match Base64.decode (Utf8.encodeChars value) with
    | .ok octets => .ok octets
    | .error cause => .error ⟨field, cause⟩

/-- Reads all three parts, in a fixed order whatever their order in the comment, and stops at the
first fault. -/
def read (comment : String) : Except Fault CommentEnvelope := do
  let signature ← readField comment .signature
  let transaction ← readField comment .transaction
  let publicKey ← readField comment .publicKey
  return { publicKey, signature, transaction }

/-- The envelope of a statement with these comments: that of the first, and an empty one if there
are none. -/
def ofComments : List String → Except Fault CommentEnvelope
  | [] => .ok {}
  | comment :: _ => read comment

end CommentEnvelope

end SqlLedger
