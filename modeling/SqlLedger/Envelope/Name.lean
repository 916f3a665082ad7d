/-
The name field of a frame.

A frame names its command in a field of twelve octets: the name's UTF-8 octets, padded with zeros
behind. A name therefore has at least one octet and at most twelve. Reading drops the zeros at the
end and is lenient about the rest, since an ill-formed name is rejected later, when the catalog
does not know it.
-/

import SqlLedger.Text.Quoted
import SqlLedger.Text.Utf8

namespace SqlLedger

/-- A name field is exactly twelve octets. -/
structure NameField where
  /-- The octets, padding included. -/
  octets : Bytes
  length_octets : octets.length = 12
  deriving DecidableEq

namespace NameField

/-- How many octets a name field has. -/
def width : Nat := 12

/-- The padded field of a name, unless the name is empty or too long. -/
def ofName? (name : String) : Option NameField :=
  let octets := Utf8.encode name
  if fits : 1 ≤ octets.length ∧ octets.length ≤ width then
    some ⟨octets ++ List.replicate (width - octets.length) 0, by
      simp only [List.length_append, List.length_replicate]
      exact Nat.add_sub_cancel' fits.2⟩
  else none

/-- What is left of octets when the zeros at their end are dropped. -/
def dropPadding (octets : Bytes) : Bytes :=
  (octets.reverse.dropWhile (· == 0)).reverse

/-- The name that octets spell, with the padding dropped and ill-formed parts replaced. -/
def spell (octets : Bytes) : String :=
  Utf8.decodeLossy (dropPadding octets)

/-- The name in a field. -/
def name (field : NameField) : String :=
  spell field.octets

end NameField

end SqlLedger
