/-
Statements as a node sees them.

A node reads some statements and applies others as transactions; which it is follows from the kind
of the statement. For a statement that it applies, the node keeps the row it touches, so that it
can name the row and undo the statement. The envelope in the statement's comment is stored whole
or not at all.
-/

import SqlLedger.Statement.Comment
import SqlLedger.Statement.Literal

namespace SqlLedger

/-- The kinds of statements. -/
inductive StatementKind
  | select
  | create
  | drop
  | delete
  | insert
  | update
  | other
  deriving DecidableEq, Repr

/-- What a node does with a statement. -/
inductive StatementUse
  /-- It is read. -/
  | reads
  /-- It is applied as a transaction. -/
  | applies
  deriving DecidableEq, Repr

/-- Statements that change the database are applied; all others are read. -/
def StatementKind.use : StatementKind → StatementUse
  | create | drop | delete | insert | update => .applies
  | select | other => .reads

/-- What a parser reports of a statement. -/
structure StatementOutline where
  kind : StatementKind
  table : String
  comments : List String
  deriving DecidableEq, Repr

/-- A statement with what a node knows about it. -/
structure Statement where
  outline : StatementOutline
  sql : String
  /-- What was stored from the comment, empty until then. -/
  envelope : CommentEnvelope := {}
  /-- The column that identifies the row the statement touches. -/
  keyColumn : String := ""
  /-- The value of that column. -/
  keyValue : String := ""
  /-- The row before the statement ran, column by column, each column once. -/
  rowBefore : List (String × String) := []
  deriving DecidableEq, Repr

namespace Statement

/-! ### What a node asks of a statement -/

/-- What the node does with the statement. -/
def use (statement : Statement) : StatementUse :=
  statement.outline.kind.use

/-- Whether the statement is a query. -/
def isSelect (statement : Statement) : Bool :=
  statement.outline.kind == .select

/-- Whether the statement is applied as a transaction. -/
def isUpdate (statement : Statement) : Bool :=
  statement.use == .applies

/-- The row the statement touches, as table and key. -/
def referenceId (statement : Statement) : String :=
  s!"{statement.outline.table}:{statement.keyValue}"

/-- The statement that undoes this one. Only a created table and an inserted row can be undone
without the row as it was; the key stands in the answer as an SQL literal. -/
def rollback? (statement : Statement) : Option String :=
  let table := statement.outline.table
  match statement.outline.kind with
  | .create => some s!"DROP TABLE {table}"
  | .insert =>
    let key := Literal.escape statement.keyValue
    some s!"DELETE FROM {table} WHERE {statement.keyColumn}='{key}'"
  | _ => none

/-- Reads the envelope in the statement's comment. -/
def readEnvelope (statement : Statement) : Except CommentEnvelope.Fault CommentEnvelope :=
  CommentEnvelope.ofComments statement.outline.comments

/-! ### What a node stores with a statement -/

/-- Stores the key of the row that the statement touches. -/
def setKey (statement : Statement) (column value : String) : Statement :=
  { statement with keyColumn := column, keyValue := value }

/-- Stores one column of the row before the statement ran; a later value replaces an earlier one
of the same column. -/
def setRowColumn (statement : Statement) (column value : String) : Statement :=
  { statement with
    rowBefore := statement.rowBefore.filter (·.1 ≠ column) ++ [(column, value)] }

/-- Stores the envelope in the statement's comment, whole, or changes nothing. -/
def storeEnvelope (statement : Statement) : Except CommentEnvelope.Fault Statement := do
  return { statement with envelope := ← statement.readEnvelope }

end Statement

end SqlLedger
