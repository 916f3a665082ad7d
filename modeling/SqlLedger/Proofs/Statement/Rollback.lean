/-
The key of a row stays inside its literal when an insertion is undone.

An inserted row is deleted again by a statement whose last part is the key as a literal. The key may
come with somebody else's insertion, so what matters is how a database reads the statement: behind
the part that is fixed, the literal ends with the last character and says the key. A key that could
end the literal before would go on as a statement of its own. As the key can be read back, no other
key makes the same statement. Statements that are undone otherwise have no place for a key.
-/

import SqlLedger.Proofs.Statement.Literal
import SqlLedger.Statement.Basic

namespace SqlLedger.Statement

/-- The statement that undoes an insertion, up to the quote in front of the key. -/
def deletionOpening (statement : Statement) : String :=
  s!"DELETE FROM {statement.outline.table} WHERE {statement.keyColumn}='"

/-- The key as it stands behind that quote, with the quote that closes the literal. -/
def keyLiteral (statement : Statement) : String :=
  Literal.escape statement.keyValue ++ "'"

variable {statement other : Statement}

theorem rollback?_of_insert (inserted : statement.outline.kind = .insert) :
    statement.rollback? = some (statement.deletionOpening ++ statement.keyLiteral) := by
  rw [rollback?, inserted]
  simp only [deletionOpening, keyLiteral, ← String.append_assoc]
  rfl

theorem toList_keyLiteral (statement : Statement) :
    statement.keyLiteral.toList = (Literal.escape statement.keyValue).toList ++ ['\''] := by
  rw [keyLiteral, String.toList_append]
  rfl

/-- The literal is read as the key, whatever is written behind it. -/
theorem read?_keyLiteral_append (statement : Statement) (more : List Char) :
    Literal.read? (statement.keyLiteral.toList ++ more) =
      some (statement.keyValue.toList, more) := by
  rw [toList_keyLiteral, List.append_assoc, List.singleton_append, Literal.read?_escape_append]

theorem notMem_controls_of_mem_keyLiteral (statement : Statement) :
    ∀ char ∈ statement.keyLiteral.toList, char ∉ Literal.controls := by
  rw [toList_keyLiteral, List.forall_mem_append, List.forall_mem_singleton]
  exact ⟨Literal.notMem_controls_of_mem_escape statement.keyValue, by decide⟩

theorem keyValue_eq_of_rollback?_eq (inserted : statement.outline.kind = .insert)
    (otherInserted : other.outline.kind = .insert)
    (table : other.outline.table = statement.outline.table)
    (column : other.keyColumn = statement.keyColumn)
    (same : other.rollback? = statement.rollback?) : other.keyValue = statement.keyValue := by
  rw [rollback?_of_insert inserted, rollback?_of_insert otherInserted, Option.some.injEq,
    deletionOpening, deletionOpening, table, column, String.append_right_inj, keyLiteral,
    keyLiteral, String.append_left_inj] at same
  exact Literal.escape_injective same

/-- What undoes a statement that is no insertion depends on its kind and its table only. -/
theorem rollback?_congr_of_ne_insert (notInserted : statement.outline.kind ≠ .insert)
    (kind : other.outline.kind = statement.outline.kind)
    (table : other.outline.table = statement.outline.table) :
    other.rollback? = statement.rollback? := by
  rw [rollback?, rollback?, kind, table]
  cases same : statement.outline.kind with
  | insert => exact absurd same notInserted
  | _ => rfl

/-- A key cannot leave the literal that it stands in when an insertion is undone. Read from behind
the quote that opens the literal, the statement says the key, and its last character is the first
quote that is not escaped: up to there the literal is open, and it is closed whatever is written
behind the statement. The key adds no raw control character, and another key makes another
statement. What undoes any other statement is the same for every key and key column. -/
theorem key_stays_in_literal (statement : Statement) :
    (statement.outline.kind = .insert →
      let sql := statement.deletionOpening ++ statement.keyLiteral
      let start := statement.deletionOpening.length
      statement.rollback? = some sql ∧
      (∀ more, Literal.read? ((sql.toList ++ more).drop start) =
        some (statement.keyValue.toList, more)) ∧
      (∀ front, front <+: sql.toList.drop start → front ≠ sql.toList.drop start →
        Literal.read? front = none) ∧
      (∀ char ∈ statement.keyLiteral.toList, char ∉ Literal.controls) ∧
      ∀ other : Statement, other.outline.kind = .insert →
        other.outline.table = statement.outline.table → other.keyColumn = statement.keyColumn →
          other.rollback? = statement.rollback? → other.keyValue = statement.keyValue) ∧
    (statement.outline.kind ≠ .insert → ∀ other : Statement,
      other.outline.kind = statement.outline.kind →
        other.outline.table = statement.outline.table →
          other.rollback? = statement.rollback?) := by
  refine ⟨fun inserted => ?_, fun notInserted _ => rollback?_congr_of_ne_insert notInserted⟩
  intro sql start
  have behind : ∀ more, (sql.toList ++ more).drop start = statement.keyLiteral.toList ++ more := by
    intro more
    rw [String.toList_append, List.append_assoc]
    exact List.drop_left' String.length_toList
  have whole : sql.toList.drop start = statement.keyLiteral.toList := by
    have nothing := behind []
    rwa [List.append_nil, List.append_nil] at nothing
  refine ⟨rollback?_of_insert inserted, fun more => ?_, fun front isFront proper => ?_,
    statement.notMem_controls_of_mem_keyLiteral,
    fun _ otherInserted => keyValue_eq_of_rollback?_eq inserted otherInserted⟩
  · rw [behind, read?_keyLiteral_append]
  · have ended := statement.read?_keyLiteral_append []
    rw [List.append_nil] at ended
    rw [whole] at isFront proper
    exact Literal.read?_of_prefix ended isFront proper

/-- A key that would end the literal, with a line break and a backslash at its end. -/
theorem key_stays_in_literal_of_quotes :
    let statement : Statement :=
      { outline := ⟨.insert, "notes", []⟩, sql := "", keyColumn := "id"
        keyValue := "' OR \\'1\\'='1\n\\" }
    let created : Statement := { statement with outline.kind := .create }
    statement.deletionOpening = "DELETE FROM notes WHERE id='" ∧
      statement.keyLiteral = "\\' OR \\\\\\'1\\\\\\'=\\'1\\n\\\\'" ∧
      statement.rollback? = some (statement.deletionOpening ++ statement.keyLiteral) ∧
      Literal.read? (((statement.deletionOpening ++ statement.keyLiteral).toList ++
        "; SELECT 1".toList).drop statement.deletionOpening.length) =
          some (statement.keyValue.toList, "; SELECT 1".toList) ∧
      (∀ key, (statement.setKey "id" key).rollback? = statement.rollback? →
        key = statement.keyValue) ∧
      ∀ column key, (created.setKey column key).rollback? = created.rollback? := by
  intro statement created
  obtain ⟨undoing, -⟩ := key_stays_in_literal statement
  obtain ⟨written, reading, -, -, unique⟩ := undoing rfl
  obtain ⟨-, free⟩ := key_stays_in_literal created
  exact ⟨by decide, by decide, written, reading _,
    fun key same => unique (statement.setKey "id" key) rfl rfl rfl same,
    fun column key => free (by decide) _ rfl rfl⟩

end SqlLedger.Statement
