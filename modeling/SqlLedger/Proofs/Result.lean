/-
Results that may be faults.

A chain of steps ends well exactly if every step does, so what a chain gave tells what each step
gave, and a chain that fails fails at its first step that does. The equivalences here take a chain
apart from its end; none of them looks at the steps. Steps
that also work on a state leave it as it is when they fail, and the chain ends there.
-/

namespace SqlLedger.Result

section

variable {ε δ α β : Type} {result : Except ε α}

theorem bind_eq_ok_iff {next : α → Except ε β} {value : β} :
    result >>= next = .ok value ↔ ∃ first, result = .ok first ∧ next first = .ok value := by
  cases result with
  | ok first => exact ⟨fun rest => ⟨first, rfl, rest⟩, fun ⟨_, rfl, rest⟩ => rest⟩
  | error fault => exact ⟨nofun, nofun⟩

theorem map_eq_ok_iff {change : α → β} {value : β} :
    result.map change = .ok value ↔ ∃ first, result = .ok first ∧ change first = value := by
  cases result with
  | ok first =>
    exact ⟨fun | rfl => ⟨first, rfl, rfl⟩, fun ⟨_, rfl, same⟩ => congrArg Except.ok same⟩
  | error fault => exact ⟨nofun, nofun⟩

theorem mapError_eq_ok_iff {change : ε → δ} {value : α} :
    result.mapError change = .ok value ↔ result = .ok value := by
  cases result with
  | ok first => exact ⟨fun | rfl => rfl, fun | rfl => rfl⟩
  | error fault => exact ⟨nofun, nofun⟩

theorem bind_eq_error_iff {next : α → Except ε β} {fault : ε} :
    result >>= next = .error fault ↔
      result = .error fault ∨ ∃ first, result = .ok first ∧ next first = .error fault := by
  cases result with
  | ok first =>
    exact ⟨fun rest => Or.inr ⟨first, rfl, rest⟩, fun | .inr ⟨_, rfl, rest⟩ => rest⟩
  | error other => exact ⟨fun | rfl => Or.inl rfl, fun | .inl rfl => rfl⟩

theorem map_eq_error_iff {change : α → β} {fault : ε} :
    result.map change = .error fault ↔ result = .error fault := by
  cases result with
  | ok first => exact ⟨nofun, nofun⟩
  | error other => exact ⟨fun | rfl => rfl, fun | rfl => rfl⟩

theorem mapError_eq_error_iff {change : ε → δ} {fault : δ} :
    result.mapError change = .error fault ↔
      ∃ cause, result = .error cause ∧ change cause = fault := by
  cases result with
  | ok first => exact ⟨nofun, nofun⟩
  | error cause =>
    exact ⟨fun | rfl => ⟨cause, rfl, rfl⟩, fun ⟨_, rfl, same⟩ => congrArg Except.error same⟩

end

/-! ### Steps with a state beside the failure -/

section

variable {ε σ α β : Type}

theorem run_bind (first : ExceptT ε (StateM σ) α) (next : α → ExceptT ε (StateM σ) β) (state : σ) :
    (first >>= next).run.run state =
      match first.run.run state with
      | (.ok value, state) => (next value).run.run state
      | (.error fault, state) => (.error fault, state) := by
  rw [ExceptT.run_bind, StateT.run_bind]
  rcases first.run.run state with ⟨result, later⟩
  cases result <;> rfl

theorem run_ofExcept (result : Except ε α) (state : σ) :
    (MonadExcept.ofExcept result : ExceptT ε (StateM σ) α).run.run state = (result, state) := by
  cases result <;> rfl

end

end SqlLedger.Result
