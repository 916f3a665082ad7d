/-
Arguments of the command line.

The command line takes an option that names the settings file and then a subcommand with options
of its own. An option stands in its long form behind two hyphens or in its short form behind one,
and its value is the next argument or follows in the same one, with or without an equals sign. An
option is given once at most, and nothing that begins with a hyphen is taken for a value but a lone
hyphen. Arguments that fit no option are refused.
-/

namespace SqlLedger.CommandLine

/-! ### Options -/

/-- An option that takes a value. -/
structure OptionShape where
  long : String
  short : Option Char
  deriving DecidableEq, Repr

/-- Why arguments are refused. -/
inductive Refusal
  /-- An argument that fits nothing. -/
  | unknown (argument : String)
  /-- An option without its value. -/
  | withoutValue (option : String)
  /-- An option given more than once. -/
  | repeated (option : String)
  /-- An option that the subcommand cannot do without. -/
  | missing (option : String)
  /-- The arguments ask for help or for the version, and there is nothing to run. -/
  | helpWanted
  deriving DecidableEq, Repr

/-- The wording of a refusal. -/
def Refusal.message : Refusal → String
  | unknown argument => s!"unexpected argument {argument}"
  | withoutValue option => s!"the option {option} needs a value"
  | repeated option => s!"the option {option} is given more than once"
  | missing option => s!"the option {option} is missing"
  | helpWanted => "there is no further help"

/-- How an argument that begins with a hyphen reads. -/
inductive Reading
  /-- An option whose value is the next argument. -/
  | opens (shape : OptionShape)
  /-- An option with its value. -/
  | gives (shape : OptionShape) (value : String)
  /-- The end of the options. -/
  | ends
  /-- No option at all. -/
  | refused (refusal : Refusal)
  deriving DecidableEq, Repr

/-- The value that follows an option in the same argument; equals signs in front are dropped. -/
def attachedValue (chars : List Char) : String :=
  String.ofList (chars.dropWhile (· = '='))

/-- Reads an argument in long form, without its hyphens. -/
def readLong (shapes : List OptionShape) (argument : String) (chars : List Char) : Reading :=
  let name := String.ofList (chars.takeWhile (· ≠ '='))
  let value := chars.drop name.length
  match shapes.find? fun shape => shape.long = name with
  | some shape => if value.isEmpty then .opens shape else .gives shape (attachedValue value)
  | none =>
    if name = "help" ∨ name = "version" then .refused .helpWanted
    else .refused (.unknown argument)

/-- Reads an argument in short form, without its hyphen. -/
def readShort (shapes : List OptionShape) (argument : String) : List Char → Reading
  | [] => .refused (.unknown argument)
  | letter :: value =>
    match shapes.find? fun shape => shape.short = some letter with
    | some shape => if value.isEmpty then .opens shape else .gives shape (attachedValue value)
    | none =>
      if letter = 'h' ∨ letter = 'V' then .refused .helpWanted
      else .refused (.unknown argument)

/-- Reads an argument that begins with a hyphen. Hyphens beyond the second do not count. -/
def readHyphened (shapes : List OptionShape) (argument : String) : Reading :=
  match argument.toList with
  | ['-', '-'] => .ends
  | '-' :: '-' :: rest => readLong shapes argument (rest.dropWhile (· = '-'))
  | _ :: rest => readShort shapes argument rest
  | [] => .refused (.unknown argument)

/-- Whether an argument begins with a hyphen that is not all of it. -/
def isHyphened (argument : String) : Bool :=
  match argument.toList with
  | '-' :: _ :: _ => true
  | _ => false

/-- The values of options, by their long forms. -/
abbrev Values := List (String × String)

/-- Adds the value of an option that is given for the first time. -/
def Values.put (values : Values) (shape : OptionShape) (value : String) : Except Refusal Values :=
  if values.any fun entry => entry.1 = shape.long then .error (.repeated shape.long)
  else .ok (values ++ [(shape.long, value)])

/-- The value of an option. -/
def Values.find? (values : Values) (long : String) : Option String :=
  (List.find? (fun entry => entry.1 = long) values).map (·.2)

/-- The value of an option that must be given. -/
def Values.get (values : Values) (long : String) : Except Refusal String :=
  match values.find? long with
  | some value => .ok value
  | none => .error (.missing long)

/-- Reads options up to a word among `stops` or to the end, given the options in front and the
option whose value is due. -/
def readOptions (shapes : List OptionShape) (stops : List String) (values : Values) :
    (due : Option OptionShape) → List String →
    Except Refusal (Values × Option (String × List String))
  | none, [] => .ok (values, none)
  | some shape, [] => .error (.withoutValue shape.long)
  | some shape, argument :: rest =>
    if isHyphened argument then .error (.withoutValue shape.long)
    else
      match values.put shape argument with
      | .error refusal => .error refusal
      | .ok values => readOptions shapes stops values none rest
  | none, argument :: rest =>
    if argument ∈ stops then .ok (values, some (argument, rest))
    else if isHyphened argument then
      match readHyphened shapes argument with
      | .opens shape => readOptions shapes stops values (some shape) rest
      | .gives shape value =>
        match values.put shape value with
        | .error refusal => .error refusal
        | .ok values => readOptions shapes stops values none rest
      | .ends =>
        match rest with
        | [] => .ok (values, none)
        | argument :: _ => .error (.unknown argument)
      | .refused refusal => .error refusal
    else .error (.unknown argument)

/-! ### Subcommands -/

/-- What the command line can be told to do. -/
inductive Subcommand
  /-- Prints the state of the node. -/
  | state
  /-- Lists the nodes that the node knows. -/
  | nodes
  /-- Adds a node to the node list. -/
  | addNode (host port : String)
  /-- Removes a node from the node list. -/
  | removeNode (host port : String)
  /-- Prints the balance of a wallet. -/
  | balance (wallet : String)
  /-- Lists the transactions of a wallet. -/
  | history (wallet : String)
  /-- Lists the unspent outputs of a wallet. -/
  | unspent (wallet : String)
  /-- Tells a node that it may stop listening. -/
  | stop
  deriving DecidableEq, Repr

/-- What the arguments say: the settings file that is asked for, and the subcommand, if any. -/
structure Invocation where
  config : String
  subcommand : Option Subcommand
  deriving DecidableEq, Repr

/-- The option that names the settings file. -/
def configOption : OptionShape := ⟨"config", some 'c'⟩

/-- The option that gives a host. -/
def hostOption : OptionShape := ⟨"host", none⟩

/-- The option that gives a port. -/
def portOption : OptionShape := ⟨"port", some 'p'⟩

/-- The option that gives the address of a wallet. -/
def walletOption : OptionShape := ⟨"address", some 'a'⟩

/-- The settings file that is asked for when no other is. -/
def defaultConfig : String := "config"

/-- The words that begin a subcommand. -/
def subcommandWords : List String :=
  ["state", "nodes", "addnode", "removenode", "balance", "history", "unspent", "stop", "help"]

/-- Reads the options of a subcommand, to the end of the arguments. -/
def readOwnOptions (shapes : List OptionShape) (arguments : List String) :
    Except Refusal Values := do
  let (values, _) ← readOptions shapes [] [] none arguments
  return values

/-- Reads a subcommand from its word and the arguments behind it. -/
def readSubcommand (word : String) (arguments : List String) : Except Refusal Subcommand := do
  match word with
  | "state" =>
    let _ ← readOwnOptions [] arguments
    return .state
  | "nodes" =>
    let _ ← readOwnOptions [] arguments
    return .nodes
  | "addnode" =>
    let values ← readOwnOptions [hostOption, portOption] arguments
    return .addNode (← values.get hostOption.long) (← values.get portOption.long)
  | "removenode" =>
    let values ← readOwnOptions [hostOption, portOption] arguments
    return .removeNode (← values.get hostOption.long) (← values.get portOption.long)
  | "balance" =>
    let values ← readOwnOptions [walletOption] arguments
    return .balance (← values.get walletOption.long)
  | "history" =>
    let values ← readOwnOptions [walletOption] arguments
    return .history (← values.get walletOption.long)
  | "unspent" =>
    let values ← readOwnOptions [walletOption] arguments
    return .unspent (← values.get walletOption.long)
  | "stop" =>
    let _ ← readOwnOptions [] arguments
    return .stop
  | _ => throw .helpWanted

/-- Reads the arguments of the command line. -/
def readArguments (arguments : List String) : Except Refusal Invocation := do
  let (values, rest) ← readOptions [configOption] subcommandWords [] none arguments
  let config := (values.find? configOption.long).getD defaultConfig
  match rest with
  | none => return ⟨config, none⟩
  | some (word, rest) => return ⟨config, some (← readSubcommand word rest)⟩

end SqlLedger.CommandLine
