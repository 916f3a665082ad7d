/-
The value that counts for a field, said without the loop that finds it.

The sources are laid over each other by one loop over all that they assign, in which tables and
paths into values have rules of their own. Where names are plain and values are neither lists nor
tables an assignment puts its value in the place of what was there, so the loop ends with the last
assignment of a name (`assigned?_append_of_mem`). A file whose names are distinct assigns each name
once at most, and so does an environment whose names are distinct even without their case.

`Field.Takes` says what comes of it: the variable of the field, or else the entry of the file, or
else the default. This is exactly what counts (`takes_iff_eq_counting`).
-/

import SqlLedger.Configuration.Layers

namespace SqlLedger.Configuration

/-! ### Plain names -/

/-- Names that lead into no value: they hold none of the characters that a step begins with. Names
of letters, digits and underscores are plain. -/
def IsPlain (name : String) : Prop :=
  ∀ char ∈ name.toList, char ≠ '.' ∧ char ≠ '['

instance (name : String) : Decidable (IsPlain name) :=
  List.decidableBAll (fun char => char ≠ '.' ∧ char ≠ '[') name.toList

namespace Path

theorem readSteps?_cons_eq_none {char : Char} (plain : char ≠ '.' ∧ char ≠ '[') (fuel : Nat)
    (rest : List Char) : readSteps? fuel (char :: rest) = none := by
  cases fuel with
  | zero => rfl
  | succ fuel =>
    have noStep : takeStep? (char :: rest) = none := by
      unfold takeStep?
      split
      · rename_i same
        exact absurd (List.cons.inj same).1 plain.1
      · rename_i same
        exact absurd (List.cons.inj same).1 plain.2
      · rfl
    rw [readSteps?, noStep]
    · rfl
    · exact List.cons_ne_nil char rest

theorem takeName?_eq_some {chars rest : List Char} {name : String}
    (taken : takeName? chars = some (name, rest)) : name.toList ++ rest = chars := by
  unfold takeName? at taken
  split at taken
  · cases taken
  · cases taken
    rw [String.toList_ofList, List.takeWhile_append_dropWhile]

/-- A plain name stands for itself. -/
theorem ofName_of_isPlain {name : String} (plain : IsPlain name) : ofName name = ⟨name, []⟩ := by
  unfold ofName read?
  cases taken : takeName? name.toList with
  | none => rfl
  | some parts =>
    obtain ⟨root, rest⟩ := parts
    have whole := takeName?_eq_some taken
    cases rest with
    | nil =>
      rw [List.append_nil] at whole
      rw [← String.toList_inj.mp whole]
      rfl
    | cons char rest =>
      have member : char ∈ name.toList := whole ▸ List.mem_append_right _ List.mem_cons_self
      simp only [Option.bind_eq_bind, Option.bind_some,
        readSteps?_cons_eq_none (plain char member), Option.bind_none, Option.getD_none]

end Path

/-! ### Names of variables -/

/-- A name as it counts in the environment, without the case of its letters. -/
def folded (name : String) : List Char :=
  name.toList.map foldCase

/-- The variable that gives a field its value is named `SQLCHAIN_` and the name of the field, in
any case. -/
def Field.IsNamedBy (field : Field) (variableName : String) : Prop :=
  folded variableName = folded ("SQLCHAIN_" ++ field.name)

theorem toLower_eq_self_or_le (char : Char) : char.toLower = char ∨ 'a' ≤ char.toLower := by
  unfold Char.toLower
  split
  · rename_i upper
    have lowest : 65 ≤ char.val.toNat := upper.1
    have highest : char.val.toNat ≤ 90 := upper.2
    have distance : (32 : UInt32).toNat = 32 := rfl
    refine Or.inr ?_
    show 97 ≤ (char.val + 32).toNat
    rw [UInt32.toNat_add]
    omega
  · exact Or.inl rfl

/-- Folding the case makes no character in front of the letters of lower case. -/
theorem foldCase_ne {char other : Char} (below : other < 'a') (different : char ≠ other) :
    foldCase char ≠ other := by
  unfold foldCase
  split
  · rintro rfl
    exact absurd below (by decide)
  · rcases toLower_eq_self_or_le char with same | letter
    · rwa [same]
    · rintro rfl
      exact absurd below (Char.not_lt.mpr letter)

/-- What a variable gives a value to is the rest of its name behind the opening. -/
theorem variableName?_eq_some_iff (variableName name : String) :
    variableName? variableName = some name ↔
      folded variableName = variableOpening.toList ++ name.toList := by
  have unfolded : variableName? variableName =
      if variableOpening.toList.isPrefixOf (folded variableName) then
        some (String.ofList ((folded variableName).drop variableOpening.toList.length))
      else none := rfl
  rw [unfolded]
  constructor
  · intro found
    split at found
    · rename_i opens
      obtain ⟨rest, split⟩ := List.isPrefixOf_iff_prefix.mp opens
      cases found
      rw [String.toList_ofList, ← split, List.drop_left]
    · cases found
  · intro split
    rw [split, if_pos (List.isPrefixOf_iff_prefix.mpr (List.prefix_append _ _)), List.drop_left,
      String.ofList_toList]

/-- The variables of a field are those that its name is found in. -/
theorem variableName?_eq_some_name_iff (variableName : String) (field : Field) :
    variableName? variableName = some field.name ↔ field.IsNamedBy variableName := by
  have opened : folded ("SQLCHAIN_" ++ field.name) =
      variableOpening.toList ++ field.name.toList := by
    cases field <;> decide
  rw [variableName?_eq_some_iff, Field.IsNamedBy, opened]

/-- What a variable with a plain name gives a value to is plain as well. -/
theorem isPlain_of_variableName?_eq_some {variableName name : String}
    (plain : IsPlain variableName) (found : variableName? variableName = some name) :
    IsPlain name := by
  intro char member
  have inFolded : char ∈ folded variableName := by
    rw [(variableName?_eq_some_iff variableName name).mp found]
    exact List.mem_append_right _ member
  obtain ⟨original, originalMember, rfl⟩ := List.mem_map.mp inFolded
  obtain ⟨noPoint, noBracket⟩ := plain original originalMember
  exact ⟨foldCase_ne (by decide) noPoint, foldCase_ne (by decide) noBracket⟩

/-! ### Assignments, one after the other -/

/-- Scalars and null: neither lists nor tables. -/
def Value.isFlat : Value → Bool
  | .list | .table _ => false
  | _ => true

theorem assign_of_isFlat (current : Option Sourced) {given : Sourced} (flat : given.value.isFlat) :
    assign current [] given = given := by
  obtain ⟨value, origin⟩ := given
  cases value <;> first | rfl | cases flat

theorem assigned?_append_singleton (name : String) (before : List Assignment)
    (assignment : Assignment) :
    assigned? name (before ++ [assignment]) =
      if assignment.path.root = name then
        some (assign (assigned? name before) assignment.path.steps assignment.given)
      else assigned? name before := by
  rw [assigned?, List.foldl_append]
  rfl

theorem assigned?_append_of_forall_ne {name : String} (before : List Assignment)
    {later : List Assignment} (others : ∀ assignment ∈ later, assignment.path.root ≠ name) :
    assigned? name (before ++ later) = assigned? name before := by
  induction later generalizing before with
  | nil => rw [List.append_nil]
  | cons assignment later inductionHypothesis =>
    obtain ⟨other, others⟩ := List.forall_mem_cons.mp others
    rw [List.append_cons, inductionHypothesis (before ++ [assignment]) others,
      assigned?_append_singleton, if_neg other]

/-- The last assignment to a name decides what its value is. -/
theorem assigned?_append_cons {name : String} (before : List Assignment) {given : Sourced}
    (flat : given.value.isFlat) {later : List Assignment}
    (others : ∀ assignment ∈ later, assignment.path.root ≠ name) :
    assigned? name (before ++ ⟨⟨name, []⟩, given⟩ :: later) = some given := by
  rw [List.append_cons, assigned?_append_of_forall_ne _ others, assigned?_append_singleton,
    if_pos rfl, assign_of_isFlat _ flat]

/-- Among assignments to distinct names, the one to a name decides what its value is. -/
theorem assigned?_append_of_mem {name : String} (before : List Assignment)
    {later : List Assignment} (distinct : (later.map (·.path.root)).Nodup) {given : Sourced}
    (member : ⟨⟨name, []⟩, given⟩ ∈ later) (flat : given.value.isFlat) :
    assigned? name (before ++ later) = some given := by
  obtain ⟨front, rest, rfl⟩ := List.append_of_mem member
  -- What comes in front does not matter, as the value is flat; behind it the name is gone.
  have others : ∀ assignment ∈ rest, assignment.path.root ≠ name := by
    intro assignment inRest same
    rw [List.map_append, List.map_cons, List.nodup_append, List.nodup_cons] at distinct
    exact distinct.2.1.1 (List.mem_map.mpr ⟨assignment, inRest, same⟩)
  rw [← List.append_assoc]
  exact assigned?_append_cons _ flat others

/-! ### Sources without structure -/

/-- A file of plain and distinct names with flat values. -/
structure Source.IsFlat (source : Source) : Prop where
  plain : ∀ entry ∈ source.entries, IsPlain entry.1
  flat : ∀ entry ∈ source.entries, entry.2.isFlat
  distinct : (source.entries.map Prod.fst).Nodup

/-- An environment of plain names that are distinct even without their case. -/
structure Environment.IsTidy (environment : Environment) : Prop where
  plain : ∀ entry ∈ environment, IsPlain entry.1
  distinct : (environment.map fun entry => folded entry.1).Nodup

namespace Source.IsFlat

variable {source : Source} (flat : source.IsFlat)

include flat

theorem assignments_eq : source.assignments =
    source.entries.map fun entry => ⟨⟨entry.1, []⟩, ⟨entry.2, some source.name⟩⟩ := by
  refine List.map_congr_left fun entry member => ?_
  show (⟨Path.ofName entry.1, _⟩ : Assignment) = _
  rw [Path.ofName_of_isPlain (flat.plain entry member)]

theorem nodup_roots : (source.assignments.map (·.path.root)).Nodup := by
  rw [flat.assignments_eq, List.map_map]
  exact flat.distinct

theorem mem_assignments {name : String} {value : Value} (member : (name, value) ∈ source.entries) :
    ⟨⟨name, []⟩, ⟨value, some source.name⟩⟩ ∈ source.assignments := by
  rw [flat.assignments_eq]
  exact List.mem_map.mpr ⟨(name, value), member, rfl⟩

theorem root_ne {name : String} (noEntry : ∀ entry ∈ source.entries, entry.1 ≠ name) :
    ∀ assignment ∈ source.assignments, assignment.path.root ≠ name := by
  rw [flat.assignments_eq]
  intro assignment member
  obtain ⟨entry, entryMember, rfl⟩ := List.mem_map.mp member
  exact noEntry entry entryMember

end Source.IsFlat

namespace Environment.IsTidy

variable {environment : Environment} (tidy : environment.IsTidy)

include tidy

theorem assignments_eq : environment.assignments = environment.filterMap fun entry =>
    (variableName? entry.1).map fun name =>
      ⟨⟨name, []⟩, ⟨.text entry.2, some environmentOrigin⟩⟩ := by
  let given (entry : String × String) (path : String → Path) : Option Assignment :=
    (variableName? entry.1).map fun name =>
      ⟨path name, ⟨.text entry.2, some environmentOrigin⟩⟩
  have same : ∀ entry ∈ environment, given entry .ofName = given entry (⟨·, []⟩) := by
    intro entry member
    refine Option.map_congr fun name found => ?_
    have plain := isPlain_of_variableName?_eq_some (tidy.plain entry member) found
    rw [Path.ofName_of_isPlain plain]
  calc environment.assignments
    _ = environment.filterMap (given · .ofName) := rfl
    _ = (environment.map (given · .ofName)).filterMap id := by rw [List.filterMap_map]; rfl
    _ = (environment.map (given · (⟨·, []⟩))).filterMap id := by rw [List.map_congr_left same]
    _ = environment.filterMap (given · (⟨·, []⟩)) := List.filterMap_map

theorem nodup_roots : (environment.assignments.map (·.path.root)).Nodup := by
  rw [tidy.assignments_eq, List.map_filterMap, List.Nodup, List.pairwise_filterMap]
  refine (List.pairwise_map.mp tidy.distinct).imp fun different => ?_
  intro name found other foundOther same
  simp only [Option.map_map, Option.map_eq_some_iff, Function.comp_apply, exists_eq_right,
    variableName?_eq_some_iff] at found foundOther
  exact different (by rw [found, foundOther, same])

theorem mem_assignments {field : Field} {entry : String × String} (member : entry ∈ environment)
    (named : field.IsNamedBy entry.1) :
    ⟨⟨field.name, []⟩, ⟨.text entry.2, some environmentOrigin⟩⟩ ∈ environment.assignments := by
  rw [tidy.assignments_eq, List.mem_filterMap]
  exact ⟨entry, member, by rw [(variableName?_eq_some_name_iff entry.1 field).mpr named]; rfl⟩

theorem root_ne {field : Field} (noVariable : ∀ entry ∈ environment, ¬ field.IsNamedBy entry.1) :
    ∀ assignment ∈ environment.assignments, assignment.path.root ≠ field.name := by
  rw [tidy.assignments_eq]
  intro assignment member same
  obtain ⟨entry, entryMember, given⟩ := List.mem_filterMap.mp member
  obtain ⟨name, found, rfl⟩ := Option.map_eq_some_iff.mp given
  obtain rfl : name = field.name := same
  exact noVariable entry entryMember ((variableName?_eq_some_name_iff entry.1 field).mp found)

end Environment.IsTidy

/-! ### What counts -/

/-- What a field takes: the text of its variable if there is one, or else what the file gives it,
or else its default, if it has one. -/
inductive Field.Takes (source : Option Source) (environment : Environment) (field : Field) :
    Sourced → Prop
  | fromVariable {entry : String × String} (member : entry ∈ environment)
      (named : field.IsNamedBy entry.1) :
      field.Takes source environment ⟨.text entry.2, some environmentOrigin⟩
  | fromFile {file : Source} {value : Value}
      (noVariable : ∀ entry ∈ environment, ¬ field.IsNamedBy entry.1)
      (given : source = some file) (member : (field.name, value) ∈ file.entries) :
      field.Takes source environment ⟨value, some file.name⟩
  | byDefault (noVariable : ∀ entry ∈ environment, ¬ field.IsNamedBy entry.1)
      (noEntry : ∀ file ∈ source, ∀ entry ∈ file.entries, entry.1 ≠ field.name) :
      field.Takes source environment ⟨field.default?.getD .null, none⟩

def fileAssignments (source : Option Source) : List Assignment :=
  (source.map Source.assignments).getD []

section

variable {source : Option Source} {environment : Environment} {field : Field}

theorem counting_of_assigned? {given : Sourced} (flat : given.value.isFlat)
    (assigned : assigned? field.name (fileAssignments source ++ environment.assignments) =
      some given) :
    counting source environment field = given := by
  unfold fileAssignments at assigned
  simp only [counting, assigned]
  exact assign_of_isFlat _ flat

theorem counting_of_unassigned
    (unassigned : assigned? field.name (fileAssignments source ++ environment.assignments) =
      none) :
    counting source environment field = ⟨field.default?.getD .null, none⟩ := by
  unfold fileAssignments at unassigned
  simp only [counting, unassigned]
  cases field <;> rfl

theorem Field.Takes.eq_counting (flat : ∀ file ∈ source, file.IsFlat)
    (tidy : environment.IsTidy) {sourced : Sourced}
    (takes : field.Takes source environment sourced) :
    sourced = counting source environment field := by
  symm
  cases takes with
  | @fromVariable entry member named =>
    have textFlat : (Value.text entry.2).isFlat := rfl
    exact counting_of_assigned? textFlat (assigned?_append_of_mem _ tidy.nodup_roots
      (tidy.mem_assignments member named) textFlat)
  | @fromFile file value noVariable given member =>
    obtain rfl := given
    have flat := flat file rfl
    have valueFlat : value.isFlat := flat.flat _ member
    refine counting_of_assigned? valueFlat ?_
    rw [assigned?_append_of_forall_ne _ (tidy.root_ne noVariable)]
    exact assigned?_append_of_mem [] flat.nodup_roots (flat.mem_assignments member) valueFlat
  | byDefault noVariable noEntry =>
    refine counting_of_unassigned ?_
    rw [assigned?_append_of_forall_ne _ (tidy.root_ne noVariable)]
    cases source with
    | none => rfl
    | some file =>
      exact assigned?_append_of_forall_ne [] ((flat file rfl).root_ne (noEntry file rfl))

theorem Field.exists_takes (source : Option Source) (environment : Environment) (field : Field) :
    ∃ sourced, field.Takes source environment sourced := by
  by_cases variableGiven : ∃ entry ∈ environment, field.IsNamedBy entry.1
  · obtain ⟨entry, member, named⟩ := variableGiven
    exact ⟨_, .fromVariable member named⟩
  · have noVariable : ∀ entry ∈ environment, ¬ field.IsNamedBy entry.1 := fun entry member named =>
      variableGiven ⟨entry, member, named⟩
    by_cases entryGiven : ∃ file ∈ source, ∃ entry ∈ file.entries, entry.1 = field.name
    · obtain ⟨file, given, ⟨name, value⟩, member, rfl⟩ := entryGiven
      exact ⟨_, .fromFile noVariable given member⟩
    · exact ⟨_, .byDefault noVariable fun file given entry member same =>
        entryGiven ⟨file, given, entry, member, same⟩⟩

/-- What a field takes is what counts for it, and nothing else. -/
theorem Field.takes_iff_eq_counting (flat : ∀ file ∈ source, file.IsFlat)
    (tidy : environment.IsTidy) (field : Field) (sourced : Sourced) :
    field.Takes source environment sourced ↔ sourced = counting source environment field := by
  refine ⟨fun takes => takes.eq_counting flat tidy, ?_⟩
  rintro rfl
  obtain ⟨taken, takes⟩ := field.exists_takes source environment
  exact takes.eq_counting flat tidy ▸ takes

end

end SqlLedger.Configuration
