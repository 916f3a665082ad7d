/-
Loading the settings of a client.

Only the value that counts for a field is converted to the type of the field, so a value that
another one hides does no harm, and neither do entries and variables that belong to no field.
Integers are converted to 64 bits first and then cut to the width of their field.
-/

import SqlLedger.Client.Settings
import SqlLedger.Configuration.Layers
import SqlLedger.Number.Decimal

namespace SqlLedger.Configuration

/-! ### Conversions -/

/-- What stands where something else is expected. -/
inductive Found
  | nothing
  | list
  | table
  | text (value : String)
  deriving DecidableEq, Repr

/-- What a field expects. -/
inductive Expected
  | integer
  | text
  deriving DecidableEq, Repr

/-- A value that cannot be converted to the type of its field. -/
structure TypeFault where
  found : Found
  expected : Expected
  field : Field
  origin : Option String
  deriving DecidableEq, Repr

/-- How complaints name what was found. -/
def Found.message : Found → String
  | nothing => "unit value"
  | list => "sequence"
  | table => "map"
  | text value => s!"string {Text.quoted value}"

/-- How complaints name what was expected. -/
def Expected.message : Expected → String
  | integer => "an integer"
  | text => "a string"

/-- The wording of a fault. -/
def TypeFault.message (fault : TypeFault) : String :=
  s!"invalid type: {fault.found.message}, expected {fault.expected.message} " ++
    s!"for key `{fault.field.name}`" ++
    match fault.origin with
    | some origin => s!" in {origin}"
    | none => ""

/-- The integer that a word for a truth value stands for, in any case. -/
def truthWord? (text : String) : Option Int64 :=
  match String.ofList (text.toList.map Char.toLower) with
  | "true" | "on" | "yes" => some 1
  | "false" | "off" | "no" => some 0
  | _ => none

/-- The integer of a text: a word for a truth value, or a numeral. -/
def integerOfText? (text : String) : Option Int64 :=
  match truthWord? text with
  | some value => some value
  | none => (Text.readSigned64 text).toOption

/-- A value as an integer. A double is rounded, a half away from zero, and held to 64 bits. -/
def Value.toInteger : Value → Except Found Int64
  | .integer value => .ok value
  | .boolean value => .ok (if value then 1 else 0)
  | .real value => .ok (Int64.ofInt (value.roundHeld Int64.minValue.toInt Int64.maxValue.toInt))
  | .text value =>
    match integerOfText? value with
    | some number => .ok number
    | none => .error (.text value)
  | .null => .error .nothing
  | .list => .error .list
  | .table _ => .error .table

/-- A value as a text. -/
def Value.toText : Value → Except Found String
  | .text value => .ok value
  | .integer value => .ok (toString value.toInt)
  | .boolean value => .ok (if value then "true" else "false")
  | .real value => .ok (DecimalLayout.plain.text value)
  | .null => .error .nothing
  | .list => .error .list
  | .table _ => .error .table

/-- A value as a text that may be missing. -/
def Value.toText? : Value → Except Found (Option String)
  | .null => .ok none
  | value => value.toText.map some

/-! ### Loading -/

/-- Converts the value that counts for a field. -/
def convert {α : Type} (source : Option Source) (environment : Environment) (expected : Expected)
    (conversion : Value → Except Found α) (field : Field) : Except TypeFault α :=
  let sourced := counting source environment field
  (conversion sourced.value).mapError fun found => ⟨found, expected, field, sourced.origin⟩

/-- The settings that the sources give. Of several fields that cannot be converted the first in
the order of the fields is reported. -/
def settings (source : Option Source) (environment : Environment) : Except TypeFault Settings := do
  let integer := convert source environment .integer Value.toInteger
  return {
    host := ← convert source environment .text Value.toText .host
    port := (← integer .port).toUInt64.toUInt32
    token := ← convert source environment .text Value.toText? .token
    connectTimeout := (← integer .connectTimeout).toUInt64
    waitConnectTimeout := (← integer .waitConnectTimeout).toUInt64
    readTimeout := (← integer .readTimeout).toUInt64
    writeTimeout := (← integer .writeTimeout).toUInt64 }

/-- Why settings cannot be loaded. -/
inductive LoadFault
  /-- The settings file does not follow its format. -/
  | unreadable (fault : FileFault)
  /-- A value is of a wrong type. -/
  | type (fault : TypeFault)
  deriving DecidableEq, Repr

/-- The wording of a fault. -/
def LoadFault.message : LoadFault → String
  | unreadable fault => fault.message
  | type fault => fault.message

/-- Loads the settings that are asked for by the name of a file, which may be missing. -/
def load (requested : String) (files : List File) (environment : Environment) :
    Except LoadFault Settings :=
  match readSource requested files with
  | .error fault => .error (.unreadable fault)
  | .ok source => (settings source environment).mapError .type

end SqlLedger.Configuration
