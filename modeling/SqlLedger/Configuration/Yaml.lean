/-
Settings in YAML.

A settings file holds one document at most. The entries of its mapping are the settings; a document
that is something else gives none. A document without a value is refused like one that does not
follow the format.
-/

import SqlLedger.Configuration.Yaml.Node

namespace SqlLedger.Configuration.Yaml

/-- Reads the content of a document. It may be missing behind a line that begins the document. -/
def readDocument? (fuel : Nat) (isMarked : Bool) (tokens : List Token) :
    Option (Node × List Token) :=
  let isMissing :=
    match tokens with
    | [] | .directive :: _ | .documentStart :: _ | .documentEnd :: _ => true
    | _ => false
  if isMarked && isMissing then some (.empty, tokens)
  else (readNode? true false fuel ⟨tokens, []⟩).map fun (node, reading) => (node, reading.tokens)

/-- Reads the only document of some tokens, if there is one. Directives need a line behind them
that begins the document. Every step takes a token or comes close behind one that did, so four
steps for each token and some at the end are enough. -/
def readOnly? (tokens : List Token) : Option (Option Node) := do
  if tokens.isEmpty then return none
  let fuel := 4 * tokens.length + 4
  let (node, rest) ←
    match tokens.dropWhile (· = .directive) with
    | .documentStart :: rest => readDocument? fuel true rest
    | _ => if tokens.head? = some .directive then none else readDocument? fuel false tokens
  if rest.all (· = .documentEnd) then return some node else none

/-- Reads a file. -/
def read? (text : String) : Option Entries := do
  match ← readOnly? (← tokens? text) with
  | some (.mapping entries) => return entries
  | some .valueless => none
  | _ => return []

end SqlLedger.Configuration.Yaml
