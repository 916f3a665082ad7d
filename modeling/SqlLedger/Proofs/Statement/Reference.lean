/-
When the reference of a row names the row.

A reference is the table and the key of a row with a colon between them, and nothing in it says
which colon that is if there are several. So two rows share their reference exactly if they are
the same, or if a part of the one's table can be moved over to the key, together with its colon
(`Shifted`). What two tables add to the number of colons is all that can tell such rows apart: rows
of tables with equally many colons, none for instance, have a reference of their own among each
other. A row has a reference of its own among all rows exactly if neither its table nor its key
holds a colon (`referenceId_names_row_iff`).
-/

import SqlLedger.Statement.Basic

namespace SqlLedger

namespace Text

/-! ### Texts that are joined by a colon -/

/-- Two ways to cut a text at a colon are the same, or the piece between the two colons stands
behind the one and before the other. -/
theorem append_colon_eq_append_colon_iff {first second rest others : List Char} :
    first ++ ':' :: rest = second ++ ':' :: others ↔
      first = second ∧ rest = others ∨
        (∃ middle, first = second ++ ':' :: middle ∧ others = middle ++ ':' :: rest) ∨
        ∃ middle, second = first ++ ':' :: middle ∧ rest = middle ++ ':' :: others := by
  rw [List.append_eq_append_iff]
  constructor
  · rintro (⟨between, rfl, same⟩ | ⟨between, rfl, same⟩)
    · cases between with
      | nil => exact Or.inl ⟨(List.append_nil first).symm, (List.cons.inj same).2⟩
      | cons char middle =>
        obtain ⟨rfl, rest⟩ := List.cons.inj same
        exact Or.inr (Or.inr ⟨middle, rfl, rest⟩)
    · cases between with
      | nil => exact Or.inl ⟨List.append_nil second, (List.cons.inj same).2.symm⟩
      | cons char middle =>
        obtain ⟨rfl, rest⟩ := List.cons.inj same
        exact Or.inr (Or.inl ⟨middle, rfl, rest⟩)
  · rintro (⟨rfl, rfl⟩ | ⟨middle, rfl, rfl⟩ | ⟨middle, rfl, rfl⟩)
    · exact Or.inl ⟨[], (List.append_nil first).symm, rfl⟩
    · exact Or.inr ⟨':' :: middle, rfl, rfl⟩
    · exact Or.inl ⟨':' :: middle, rfl, rfl⟩

end Text

namespace Statement

/-! ### Rows -/

/-- Two statements touch the same row. -/
def SameRow (first second : Statement) : Prop :=
  first.outline.table = second.outline.table ∧ first.keyValue = second.keyValue

/-- The first statement has in its table, behind a colon, what the second one has at the front of
its key. -/
def Shifted (first second : Statement) : Prop :=
  ∃ middle : String, first.outline.table = second.outline.table ++ ":" ++ middle ∧
    second.keyValue = middle ++ ":" ++ first.keyValue

/-- How many colons there are in the name of the table. -/
def tableColons (statement : Statement) : Nat :=
  statement.outline.table.toList.count ':'

variable {first second : Statement}

theorem toList_referenceId (statement : Statement) :
    statement.referenceId.toList =
      statement.outline.table.toList ++ ':' :: statement.keyValue.toList := by
  simp only [referenceId, String.toList_append, List.append_assoc]
  rfl

theorem shifted_iff :
    first.Shifted second ↔ ∃ middle,
      first.outline.table.toList = second.outline.table.toList ++ ':' :: middle ∧
        second.keyValue.toList = middle ++ ':' :: first.keyValue.toList := by
  have written (middle : String) : first.outline.table = second.outline.table ++ ":" ++ middle ∧
      second.keyValue = middle ++ ":" ++ first.keyValue ↔
      first.outline.table.toList = second.outline.table.toList ++ ':' :: middle.toList ∧
        second.keyValue.toList = middle.toList ++ ':' :: first.keyValue.toList := by
    simp only [← String.toList_inj, String.toList_append, List.append_assoc]
    rfl
  constructor
  · rintro ⟨middle, shifted⟩
    exact ⟨middle.toList, (written middle).mp shifted⟩
  · rintro ⟨middle, shifted⟩
    refine ⟨String.ofList middle, (written _).mpr ?_⟩
    rwa [String.toList_ofList]

/-- Two rows share their reference exactly if they are the same or one is the other with a part of
its table moved to the key. -/
theorem referenceId_eq_iff :
    first.referenceId = second.referenceId ↔
      first.SameRow second ∨ first.Shifted second ∨ second.Shifted first := by
  rw [← String.toList_inj, toList_referenceId, toList_referenceId,
    Text.append_colon_eq_append_colon_iff, shifted_iff, shifted_iff, SameRow, String.toList_inj,
    String.toList_inj]

/-- Moving a part of the table leaves a table with fewer colons. -/
theorem Shifted.tableColons_lt (shifted : first.Shifted second) :
    second.tableColons < first.tableColons := by
  obtain ⟨middle, table, -⟩ := shifted_iff.mp shifted
  rw [tableColons, tableColons, table, List.count_append, List.count_cons_self]
  omega

/-- A row with a colon in its table shares its reference with a row of a shorter table. -/
theorem exists_shifted_of_colon_mem_table {statement : Statement}
    (member : ':' ∈ statement.outline.table.toList) :
    ∃ other : Statement, statement.Shifted other := by
  obtain ⟨before, middle, split⟩ := List.append_of_mem member
  refine ⟨{ statement with
    outline.table := String.ofList before
    keyValue := String.ofList (middle ++ ':' :: statement.keyValue.toList) },
    shifted_iff.mpr ⟨middle, ?_, ?_⟩⟩
  · rw [String.toList_ofList, split]
  · rw [String.toList_ofList]

/-- A row with a colon in its key shares its reference with a row of a longer table. -/
theorem exists_shifted_of_colon_mem_keyValue {statement : Statement}
    (member : ':' ∈ statement.keyValue.toList) :
    ∃ other : Statement, other.Shifted statement := by
  obtain ⟨middle, after, split⟩ := List.append_of_mem member
  refine ⟨{ statement with
    outline.table := String.ofList (statement.outline.table.toList ++ ':' :: middle)
    keyValue := String.ofList after }, shifted_iff.mpr ⟨middle, ?_, ?_⟩⟩
  · rw [String.toList_ofList]
  · rw [String.toList_ofList, split]

theorem SameRow.tableColons_eq (sameRow : first.SameRow second) :
    first.tableColons = second.tableColons :=
  congrArg (fun table : String => table.toList.count ':') sameRow.1

/-- Two statements have the same reference exactly if they touch the same row, or if the table of
one is that of the other with a colon and a piece behind that the key of the other begins with,
before a colon of its own. So among rows of tables with equally many colons the reference names the
row. Among all rows it does exactly if neither the table nor the key of the row holds a colon. -/
theorem referenceId_names_row_iff (statement : Statement) :
    (∀ other : Statement, other.referenceId = statement.referenceId ↔
      other.SameRow statement ∨ other.Shifted statement ∨ statement.Shifted other) ∧
    (∀ other : Statement, other.tableColons = statement.tableColons →
      (other.referenceId = statement.referenceId ↔ other.SameRow statement)) ∧
    ((∀ other : Statement, other.referenceId = statement.referenceId →
        other.SameRow statement) ↔
      ':' ∉ statement.outline.table.toList ∧ ':' ∉ statement.keyValue.toList) := by
  refine ⟨fun other => referenceId_eq_iff, fun other equallyMany => ?_, ?_, ?_⟩
  · rw [referenceId_eq_iff]
    refine or_iff_left ?_
    rintro (shifted | shifted)
    · exact Nat.ne_of_gt shifted.tableColons_lt equallyMany
    · exact Nat.ne_of_lt shifted.tableColons_lt equallyMany
  · intro names
    constructor
    · intro member
      obtain ⟨other, shifted⟩ := exists_shifted_of_colon_mem_table member
      have sameRow := names other (referenceId_eq_iff.mpr (Or.inr (Or.inr shifted)))
      exact Nat.ne_of_lt shifted.tableColons_lt sameRow.tableColons_eq
    · intro member
      obtain ⟨other, shifted⟩ := exists_shifted_of_colon_mem_keyValue member
      have sameRow := names other (referenceId_eq_iff.mpr (Or.inr (Or.inl shifted)))
      exact Nat.ne_of_gt shifted.tableColons_lt sameRow.tableColons_eq
  · rintro ⟨tableFree, keyFree⟩ other same
    rcases referenceId_eq_iff.mp same with sameRow | shifted | shifted
    · exact sameRow
    · obtain ⟨middle, -, key⟩ := shifted_iff.mp shifted
      exact absurd (key ▸ List.mem_append_right _ List.mem_cons_self) keyFree
    · obtain ⟨middle, table, -⟩ := shifted_iff.mp shifted
      exact absurd (table ▸ List.mem_append_right _ List.mem_cons_self) tableFree

/-- Keys with colons are told apart within one table, and across tables that hold no colon. -/
theorem referenceId_names_row_iff_of_keys :
    let first : Statement := { outline := ⟨.insert, "files", []⟩, sql := "", keyValue := "a:b:" }
    let second : Statement := { outline := ⟨.update, "notes", []⟩, sql := "", keyValue := "42" }
    (∀ key, (first.setKey "id" key).referenceId = first.referenceId → key = "a:b:") ∧
      second.tableColons = first.tableColons ∧ second.referenceId ≠ first.referenceId ∧
      ∀ other : Statement, other.referenceId = second.referenceId →
        other.outline.table = "notes" ∧ other.keyValue = "42" := by
  intro first second
  obtain ⟨-, among, -⟩ := referenceId_names_row_iff first
  obtain ⟨-, -, alone⟩ := referenceId_names_row_iff second
  have equallyMany : second.tableColons = first.tableColons := by decide
  refine ⟨fun key same => ?_, equallyMany, fun same => ?_, ?_⟩
  · exact ((among (first.setKey "id" key) rfl).mp same).2
  · exact absurd ((among second equallyMany).mp same).1 (by decide)
  · exact alone.mpr ⟨by decide, by decide⟩

/-- Two rows of different tables, with different keys, and one reference for both. -/
theorem rows_share_referenceId :
    let first : Statement := { outline := ⟨.insert, "a:b", []⟩, sql := "", keyValue := "c" }
    let second : Statement := { outline := ⟨.insert, "a", []⟩, sql := "", keyValue := "b:c" }
    first.referenceId = "a:b:c" ∧ second.referenceId = "a:b:c" ∧
      ¬ (first.outline.table = second.outline.table ∧ first.keyValue = second.keyValue) := by
  decide

end Statement

end SqlLedger
