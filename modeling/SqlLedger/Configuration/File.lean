/-
Finding and reading a settings file.

A settings file is asked for by a name with or without an extension. A file of exactly that name
is taken if its extension names a format, and if it does not there is no settings file at all.
Without such a file the extension of the name, if it has one, is replaced by the extension of each
format in turn.
-/

import SqlLedger.Configuration.Hjson
import SqlLedger.Configuration.Ini
import SqlLedger.Configuration.Toml
import SqlLedger.Configuration.Yaml

namespace SqlLedger.Configuration

/-! ### Formats -/

/-- The formats of settings files. -/
inductive Format
  | toml
  | json
  | yaml
  | hjson
  | ini
  deriving DecidableEq, Repr

/-- The extensions that name a format. -/
def Format.extensions : List (String × Format) :=
  [("toml", .toml), ("json", .json), ("yaml", .yaml), ("yml", .yaml), ("hjson", .hjson),
    ("ini", .ini)]

/-- The format that an extension names; case matters. -/
def Format.ofExtension? (extension : String) : Option Format :=
  (extensions.find? fun entry => entry.1 = extension).map (·.2)

/-- A JSON value as a value of settings. -/
def Value.ofJson : Json → Value
  | .null => .null
  | .boolean value => .boolean value
  | .integer value => .ofInt value
  | .real value => .real value
  | .text value => .text value
  | .list _ => .list
  | .object members => .table members.isEmpty

/-- The entries of a JSON text; a value that is no object has none. -/
def readJson? (content : String) : Option Entries :=
  match Json.read? content with
  | none => none
  | some (.object members) => some (members.map fun (name, value) => (name, .ofJson value))
  | some _ => some []

/-- Reads a file of a format. -/
def Format.read? : Format → String → Option Entries
  | toml, content => Toml.read? content
  | json, content => readJson? content
  | yaml, content => Yaml.read? content
  | hjson, content => Hjson.read? content
  | ini, content => Ini.read? content

/-! ### Names -/

/-- A path without empty parts and parts that stay where they are. -/
def normalize (path : String) : String :=
  let parts := (path.toList.splitOn '/').filter fun part => part ≠ [] ∧ part ≠ ['.']
  let root := if path.toList.head? = some '/' then ['/'] else []
  String.ofList (root ++ ['/'].intercalate parts)

/-- The part of a path in front of its last name, and that name. -/
def splitDirectory (path : String) : String × String :=
  let name := (path.toList.reverse.takeWhile (· ≠ '/')).reverse
  (String.ofList (path.toList.take (path.length - name.length)), String.ofList name)

/-- A name without its extension, and the extension. A point in front belongs to the name. -/
def splitExtension (name : String) : String × Option String :=
  let extension := (name.toList.reverse.takeWhile (· ≠ '.')).reverse
  let stem := name.toList.take (name.length - extension.length - 1)
  if extension.length = name.length ∨ stem.isEmpty ∨ name = ".." then (name, none)
  else (String.ofList stem, some (String.ofList extension))

/-- The format that the extension of a path names. -/
def formatOf? (path : String) : Option Format :=
  ((splitExtension (splitDirectory path).2).2).bind Format.ofExtension?

/-- A path with its extension replaced. -/
def withExtension (path extension : String) : String :=
  let (directory, name) := splitDirectory path
  directory ++ (splitExtension name).1 ++ "." ++ extension

/-- The paths that may hold the settings asked for by a name. -/
def candidates (requested : String) : List String :=
  let path := normalize requested
  path :: Format.extensions.map fun (extension, _) => withExtension path extension

/-- Chooses a settings file among those that are present. -/
def choose? (requested : String) (present : List String) : Option (String × Format) :=
  let path := normalize requested
  if path = "" then none
  else if path ∈ present then (formatOf? path).map (path, ·)
  else
    (Format.extensions.find? fun (extension, _) => withExtension path extension ∈ present).map
      fun (extension, format) => (withExtension path extension, format)

/-- A file with its content. -/
structure File where
  name : String
  content : String
  /-- What the parser of the format says if it refuses the content. The readers of this library tell
  that they refuse a text and not why, so the words come with the file. -/
  complaint : String := ""
  deriving DecidableEq, Repr

/-- A settings file that does not follow its format, with the complaint of the parser. -/
structure FileFault where
  file : String
  complaint : String
  deriving DecidableEq, Repr

/-- The wording of a fault: the complaint, and the file that it is about. -/
def FileFault.message (fault : FileFault) : String :=
  s!"{fault.complaint} in {fault.file}"

/-- The entries of a settings file, with the name by which complaints refer to it. -/
structure Source where
  name : String
  entries : Entries
  deriving DecidableEq, Repr

/-- Reads the settings file that is asked for, if there is one among the files. -/
def readSource (requested : String) (files : List File) : Except FileFault (Option Source) :=
  match choose? requested (files.map File.name) with
  | none => .ok none
  | some (name, format) =>
    match files.find? fun file => file.name = name with
    | none => .ok none
    | some file =>
      match format.read? file.content with
      | none => .error ⟨name, file.complaint⟩
      | some entries => .ok (some ⟨name, entries⟩)

end SqlLedger.Configuration
