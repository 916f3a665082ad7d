/-
The layers of the settings.

Three layers give each field its value: the defaults, the settings file, and the variables of the
environment. A later layer replaces what an earlier one gave, entry by entry. Tables are the
exception: an empty one replaces nothing, and one with entries is put together from what is there,
so that complaints can name no single source for it. The same holds for a value that an entry
reaches into.
-/

import SqlLedger.Configuration.Path
import SqlLedger.Configuration.File

namespace SqlLedger.Configuration

/-! ### Fields -/

/-- The fields of the settings. -/
inductive Field
  | host
  | port
  | token
  | connectTimeout
  | waitConnectTimeout
  | readTimeout
  | writeTimeout
  deriving DecidableEq, Repr

/-- The name of a field, in files and, in any case, in variables. -/
def Field.name : Field → String
  | host => "node_host"
  | port => "node_port"
  | token => "auth_token"
  | connectTimeout => "connect_timeout_ms"
  | waitConnectTimeout => "wait_connect_timeout_ms"
  | readTimeout => "read_timeout_ms"
  | writeTimeout => "write_timeout_ms"

/-- The value of a field that no source gives. -/
def Field.default? : Field → Option Value
  | host => some (.text "localhost")
  | port => some (.integer 8766)
  | token => none
  | connectTimeout => some (.integer 1000)
  | waitConnectTimeout => some (.integer 2000)
  | readTimeout => some (.integer 30000)
  | writeTimeout => some (.integer 30000)

/-! ### Sources -/

/-- A value with the source that complaints name, if it comes from a single one. -/
structure Sourced where
  value : Value
  origin : Option String
  deriving DecidableEq, Repr

/-- What a source gives to a path. -/
structure Assignment where
  path : Path
  given : Sourced
  deriving DecidableEq, Repr

/-- What a settings file gives, in the order of its entries. -/
def Source.assignments (source : Source) : List Assignment :=
  source.entries.map fun (name, value) => ⟨.ofName name, ⟨value, some source.name⟩⟩

/-- The variables of the environment, in their order. -/
abbrev Environment := List (String × String)

/-- The letter that a character of a variable's name counts as. Letters count without their case;
the Kelvin sign is the one character outside ASCII that is a case of an ASCII letter. -/
def foldCase (char : Char) : Char :=
  if char = '\u212a' then 'k' else char.toLower

/-- What the names of the variables begin with. -/
def variableOpening : String := "sqlchain_"

/-- The name that a variable gives a value to, if it begins as settings do. -/
def variableName? (variableName : String) : Option String :=
  let folded := variableName.toList.map foldCase
  let opening := variableOpening.toList
  if opening.isPrefixOf folded then some (String.ofList (folded.drop opening.length)) else none

/-- How complaints name the environment. -/
def environmentOrigin : String := "the environment"

/-- What the environment gives, in the order of its variables. -/
def Environment.assignments (environment : Environment) : List Assignment :=
  environment.filterMap fun (key, text) =>
    (variableName? key).map fun name => ⟨.ofName name, ⟨.text text, some environmentOrigin⟩⟩

/-! ### What counts -/

/-- Gives a value, or the part of it where the steps lead, a new value. Which part it is does not
matter, since no field is a list or a table. -/
def assign (current : Option Sourced) (steps : List Step) (given : Sourced) : Sourced :=
  match steps with
  | .member _ :: _ => ⟨.table false, none⟩
  | .element _ :: _ =>
    match current with
    | some ⟨.list, origin⟩ => ⟨.list, origin⟩
    | _ => ⟨.list, none⟩
  | [] =>
    match given.value with
    | .table true => current.getD ⟨.table true, none⟩
    | .table false => ⟨.table false, none⟩
    | _ => given

/-- What assignments make of the value with a name, one after the other. -/
def assigned? (name : String) (assignments : List Assignment) : Option Sourced :=
  assignments.foldl
    (fun current assignment =>
      if assignment.path.root = name then
        some (assign current assignment.path.steps assignment.given)
      else current)
    none

/-- The value that counts for a field: what the file and the environment make of it together, laid
over its default. -/
def counting (source : Option Source) (environment : Environment) (field : Field) : Sourced :=
  let default? := field.default?.map fun value => (⟨value, none⟩ : Sourced)
  let fromFile := (source.map Source.assignments).getD []
  match assigned? field.name (fromFile ++ environment.assignments) with
  | some given => assign default? [] given
  | none => default?.getD ⟨.null, none⟩

end SqlLedger.Configuration
