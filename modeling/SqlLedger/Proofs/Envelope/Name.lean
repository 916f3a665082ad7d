/-
Names survive their field.

The field of a name is the octets of the name with zeros behind, so dropping the zeros gives back
the octets unless the name itself ends in one, and then the lenient reading of the field finds a
text and changes nothing. The names of the catalog fit the field and end in no zero. A frame made
for a command is therefore dispatched as that command.
-/

import SqlLedger.Envelope.Contents
import SqlLedger.Proofs.Text.Utf8

namespace SqlLedger

/-! ### Padding -/

/-- Zeros behind octets that do not end in one are dropped, and nothing else. -/
theorem NameField.dropPadding_append_replicate {octets : Bytes} (count : Nat)
    (solid : octets.getLast? ≠ some 0) :
    dropPadding (octets ++ List.replicate count 0) = octets := by
  unfold dropPadding
  rw [List.reverse_append, List.reverse_replicate, List.dropWhile_append_of_pos]
  · rw [← List.head?_reverse] at solid
    cases reversed : octets.reverse with
    | nil =>
      obtain rfl := List.reverse_eq_nil_iff.mp reversed
      rfl
    | cons last before =>
      rw [reversed, List.head?_cons] at solid
      have nonzero : (last == 0) = false := by
        rw [beq_eq_false_iff_ne]
        exact fun zero => solid (congrArg some zero)
      rw [List.dropWhile_cons, nonzero, if_neg Bool.false_ne_true, ← reversed,
        List.reverse_reverse]
  · intro byte member
    rw [List.eq_of_mem_replicate member]
    rfl

/-- A name that fits and does not end in a zero is read back from its field. -/
theorem NameField.exists_ofName?_of_fits {name : String}
    (fits : 1 ≤ (Utf8.encode name).length ∧ (Utf8.encode name).length ≤ width)
    (solid : (Utf8.encode name).getLast? ≠ some 0) :
    ∃ field, ofName? name = some field ∧ field.name = name := by
  refine ⟨_, dif_pos fits, ?_⟩
  rw [NameField.name, spell, dropPadding_append_replicate _ solid, Utf8.decodeLossy_encode]

/-! ### The names of the catalog -/

namespace Command

theorem name_fits (command : Command) :
    1 ≤ (Utf8.encode command.name).length ∧
      (Utf8.encode command.name).length ≤ NameField.width := by
  cases command <;> decide

theorem name_getLast?_ne (command : Command) :
    (Utf8.encode command.name).getLast? ≠ some 0 := by
  cases command <;> decide

/-- The catalog knows each of its commands by its name. -/
theorem ofName_name (command : Command) : ofName command.name = .ok command := by
  cases command <;> rfl

end Command

/-- A frame can be made for every command, and it names that command. -/
theorem Envelope.exists_create_command (command : Command) (payload extra : Bytes) :
    ∃ field, create command.name payload extra = .ok ⟨field, payload, extra⟩ ∧
      Command.ofName field.name = .ok command := by
  obtain ⟨field, found, same⟩ :=
    NameField.exists_ofName?_of_fits command.name_fits command.name_getLast?_ne
  refine ⟨field, ?_, ?_⟩
  · rw [create, found]
  · rw [same, Command.ofName_name]

end SqlLedger
