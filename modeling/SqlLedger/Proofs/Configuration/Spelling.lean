/-
A number means the same however it is written.

A number may stand in a settings file as an integer, in a file of any format, or as its decimal
text, and in a variable as its decimal text; one and zero may stand there as truth values and as the
words for them, in any case. Each of these values converts to the same word of 64 bits
(`toInteger`), so a field for numbers holds the same whichever way it was written, and the settings
are the same if the other fields are (`IsWritten.exists_loaded`). What stands in the text of a file
comes to such a value: JSON reads the decimal text of a word as the integer, and so does TOML, over
the whole range of words.
-/

import SqlLedger.Proofs.Configuration.Number
import SqlLedger.Proofs.Configuration.Toml.Document
import SqlLedger.Proofs.Json.Document

namespace SqlLedger.Configuration

/-! ### Words for truth values -/

/-- The words for a truth value. -/
def truthWords (truth : Bool) : List String :=
  if truth then ["true", "on", "yes"] else ["false", "off", "no"]

/-- The word that a truth value stands for. -/
def ofTruth (truth : Bool) : Int64 :=
  if truth then 1 else 0

/-- A text spells a word of small letters, each letter in either case. -/
def InAnyCase (text word : String) : Prop :=
  List.Forall₂ (fun char letter => char = letter ∨ char = letter.toUpper) text.toList word.toList

/-- Letters that are their own small letter, and that of their capital. -/
def isSmall (letter : Char) : Bool :=
  letter.toLower = letter && letter.toUpper.toLower = letter

theorem InAnyCase.map_toLower {text word : String} (small : word.toList.all isSmall = true)
    (spelled : InAnyCase text word) : text.toList.map Char.toLower = word.toList := by
  unfold InAnyCase at spelled
  generalize text.toList = chars at *
  generalize word.toList = letters at *
  induction spelled with
  | nil => rfl
  | cons same _ inductionHypothesis =>
    rw [List.all_cons, Bool.and_eq_true, isSmall, Bool.and_eq_true, decide_eq_true_eq,
      decide_eq_true_eq] at small
    obtain ⟨⟨ownSmall, capitalSmall⟩, small⟩ := small
    rw [List.map_cons, inductionHypothesis small]
    rcases same with rfl | rfl
    · rw [ownSmall]
    · rw [capitalSmall]

/-- A word for a truth value converts to what the value stands for, whatever the case. -/
theorem truthWord?_of_inAnyCase {truth : Bool} {text word : String}
    (listed : word ∈ truthWords truth) (spelled : InAnyCase text word) :
    truthWord? text = some (ofTruth truth) := by
  have words : ∀ truth, (truthWords truth).all (fun word => word.toList.all isSmall) = true := by
    decide
  have small := List.all_eq_true.mp (words truth) word listed
  have folded : String.ofList (text.toList.map Char.toLower) = word := by
    rw [spelled.map_toLower small, String.ofList_toList]
  rw [truthWord?, folded]
  cases truth <;>
    · simp only [truthWords, Bool.false_eq_true, if_true, if_false, List.mem_cons,
        List.not_mem_nil, or_false] at listed
      rcases listed with rfl | rfl | rfl <;> rfl

/-! ### Values that mean a number -/

/-- A value means a word of 64 bits: it is the integer or its decimal text, or else the word is one
or zero and the value is the truth value for it or a word for that, in any case. -/
inductive Value.Means : Value → Int64 → Prop
  | number {value : Value} {word : Int64} (gives : value.Gives word) : Means value word
  | truth (truth : Bool) : Means (.boolean truth) (ofTruth truth)
  | truthWord {truth : Bool} {text word : String} (listed : word ∈ truthWords truth)
      (spelled : InAnyCase text word) : Means (.text text) (ofTruth truth)

namespace Value.Means

variable {value : Value} {word : Int64}

theorem isFlat (means : value.Means word) : value.isFlat = true := by
  cases means with
  | number gives => exact gives.isFlat
  | truth => rfl
  | truthWord => rfl

theorem toInteger (means : value.Means word) : value.toInteger = .ok word := by
  cases means with
  | number gives => exact gives.toInteger
  | truth truth => cases truth <;> rfl
  | truthWord listed spelled =>
    rw [Value.toInteger, integerOfText?, truthWord?_of_inAnyCase listed spelled]

end Value.Means

/-! ### Numbers that are written -/

namespace NumberField

/-- A number is written for a field: it stands in the settings file or in a variable of the field as
a value that means it, and nothing that comes later leads to the field. -/
inductive IsWritten (numeric : NumberField) (word : Int64) :
    (requested : String) → List File → Environment → Prop
  | inFile {requested : String} {files : List File} {environment : Environment} {file : Source}
      {before after : Entries} {value : Value} (means : value.Means word)
      (read : readSource requested files = .ok (some file))
      (split : file.entries = before ++ (numeric.field.name, value) :: after)
      (last : ∀ entry ∈ after, (Path.ofName entry.1).root ≠ numeric.field.name)
      (noVariable : ∀ assignment ∈ environment.assignments,
        assignment.path.root ≠ numeric.field.name) :
      IsWritten numeric word requested files environment
  | inVariable {requested : String} {files : List File} {source : Option Source}
      {before after : Environment} {variableName text : String}
      (means : (Value.text text).Means word) (read : readSource requested files = .ok source)
      (named : numeric.field.IsNamedBy variableName)
      (last : ∀ assignment ∈ Environment.assignments after,
        assignment.path.root ≠ numeric.field.name) :
      IsWritten numeric word requested files (before ++ (variableName, text) :: after)

end NumberField

/-- The value that counts for a field converts to a content. -/
def Field.Gets (field : Field) (requested : String) (files : List File) (environment : Environment)
    (content : field.Content) : Prop :=
  ∃ source, readSource requested files = .ok source ∧
    field.convert (counting source environment field).value = .ok content

theorem load_eq_ok_iff_gets {requested : String} {files : List File} {environment : Environment}
    {loaded : Settings} : load requested files environment = .ok loaded ↔
      ∀ field : Field, field.Gets requested files environment (field.content loaded) := by
  constructor
  · intro success field
    cases read : readSource requested files with
    | error file =>
      rw [load, read] at success
      cases success
    | ok source => exact ⟨source, read, (load_eq_ok_iff read).mp success field⟩
  · intro gets
    obtain ⟨source, read, -⟩ := gets .host
    refine (load_eq_ok_iff read).mpr fun field => ?_
    obtain ⟨other, otherRead, converted⟩ := gets field
    cases read.symm.trans otherRead
    exact converted

/-- A field that nothing leads to gets its default. -/
theorem Field.gets_default {field : Field} {requested : String} {files : List File}
    {source : Option Source} {environment : Environment}
    (read : readSource requested files = .ok source)
    (unset : ∀ assignment ∈ fileAssignments source ++ environment.assignments,
      assignment.path.root ≠ field.name) :
    field.Gets requested files environment (field.content {}) := by
  refine ⟨source, read, ?_⟩
  rw [counting_of_unassigned (assigned?_append_of_forall_ne [] unset)]
  cases field <;> rfl

theorem Field.Gets.unique {field : Field} {requested : String} {files : List File}
    {environment : Environment} {first second : field.Content}
    (gets : field.Gets requested files environment first)
    (again : field.Gets requested files environment second) : first = second := by
  obtain ⟨source, read, converted⟩ := gets
  obtain ⟨other, otherRead, otherConverted⟩ := again
  cases read.symm.trans otherRead
  exact Except.ok.inj (converted.symm.trans otherConverted)

namespace NumberField

variable {numeric : NumberField} {word : Int64} {requested : String} {files : List File}
  {environment : Environment}

/-- A field for numbers gets what is left of the number that is written for it. -/
theorem IsWritten.gets (written : numeric.IsWritten word requested files environment) :
    numeric.field.Gets requested files environment (numeric.cut word) := by
  cases written with
  | inFile means read split last noVariable =>
    refine ⟨_, read, ?_⟩
    rw [counting_of_assigned? means.isFlat (assigned?_of_entry means.isFlat split last noVariable)]
    exact convert_of_toInteger means.toInteger
  | inVariable means read named last =>
    refine ⟨_, read, ?_⟩
    rw [counting_of_assigned? means.isFlat (assigned?_of_variable named last _)]
    exact convert_of_toInteger means.toInteger

/-- A number that is written twice is loaded twice, if the other fields get the same. -/
theorem IsWritten.exists_loaded {otherRequested : String} {otherFiles : List File}
    {otherEnvironment : Environment} (written : numeric.IsWritten word requested files environment)
    (again : numeric.IsWritten word otherRequested otherFiles otherEnvironment)
    (others : ∀ field ≠ numeric.field, ∃ content, field.Gets requested files environment content ∧
      field.Gets otherRequested otherFiles otherEnvironment content) :
    ∃ loaded, load requested files environment = .ok loaded ∧
      load otherRequested otherFiles otherEnvironment = .ok loaded ∧
      (numeric.held loaded : Int) = word.toInt % 2 ^ numeric.width := by
  have both : ∀ field : Field, ∃ content : field.Content,
      field.Gets requested files environment content ∧
        field.Gets otherRequested otherFiles otherEnvironment content := by
    intro field
    by_cases same : field = numeric.field
    · subst same
      exact ⟨numeric.cut word, written.gets, again.gets⟩
    · exact others field same
  obtain ⟨content, gets⟩ := Classical.axiomOfChoice both
  have cut : numeric.field.content (ofContents content) = numeric.cut word := by
    rw [content_ofContents]
    exact (gets numeric.field).1.unique written.gets
  refine ⟨ofContents content, load_eq_ok_iff_gets.mpr fun field => ?_,
    load_eq_ok_iff_gets.mpr fun field => ?_, held_of_content_eq_cut cut⟩
  · rw [content_ofContents]
    exact (gets field).1
  · rw [content_ofContents]
    exact (gets field).2

end NumberField

/-! ### Texts of files -/

/-- The settings file that is chosen has a name, a format and a content. -/
structure Chooses (requested : String) (files : List File) (name : String) (format : Format)
    (content : String) : Prop where
  chosen : choose? requested (files.map File.name) = some (name, format)
  found : (files.find? fun file => file.name = name).map File.content = some content

theorem Chooses.readSource_eq {requested name content : String} {files : List File}
    {format : Format} {entries : Entries} (chooses : Chooses requested files name format content)
    (read : format.read? content = some entries) :
    readSource requested files = .ok (some ⟨name, entries⟩) := by
  obtain ⟨file, found, rfl⟩ := Option.map_eq_some_iff.mp chooses.found
  simp only [readSource, chooses.chosen, found, read]

namespace NumberField

variable {numeric : NumberField} {word : Int64} {requested name : String} {files : List File}
  {environment : Environment}

/-- An entry among entries of distinct names is a number that is written, if no other name leads to
the field. -/
theorem isWritten_of_mem {format : Format} {content : String} {entries : Entries} {value : Value}
    (chooses : Chooses requested files name format content)
    (read : format.read? content = some entries)
    (member : (numeric.field.name, value) ∈ entries)
    (distinct : entries.Pairwise (·.1 ≠ ·.1))
    (leads : ∀ entry ∈ entries, (Path.ofName entry.1).root = numeric.field.name →
      entry.1 = numeric.field.name)
    (noVariable : ∀ assignment ∈ environment.assignments,
      assignment.path.root ≠ numeric.field.name) (means : value.Means word) :
    numeric.IsWritten word requested files environment := by
  obtain ⟨before, after, rfl⟩ := List.append_of_mem member
  refine .inFile means (chooses.readSource_eq read) rfl (fun entry among root => ?_) noVariable
  have same := leads entry (List.mem_append_right _ (.tail _ among)) root
  have behind := (List.pairwise_cons.mp (List.pairwise_append.mp distinct).2.1).1 entry among
  exact behind same.symm

/-- A member of a JSON file means a word: its value is the decimal text of the word as a number or
between quotes, or else the word for a truth value. -/
def JsonMeans (chars : List Char) (word : Int64) : Prop :=
  chars = (toString word.toInt).toList ∨ chars = Json.printText (toString word.toInt) ∨
    ∃ truth, chars = (toString truth).toList ∧ word = ofTruth truth

theorem means_ofJson {chars : List Char} {value : Json} (spells : Json.Spells chars value)
    (written : JsonMeans chars word) : (Value.ofJson value).Means word := by
  rcases written with rfl | rfl | ⟨truth, rfl, rfl⟩
  · obtain rfl := spells.unique (Json.spells_integer word)
    rw [Value.ofJson, Value.ofInt, Text.signed64?_toInt]
    exact .number (.inl rfl)
  · obtain rfl := spells.unique (Json.spells_text _)
    exact .number (.inr rfl)
  · obtain rfl := spells.unique (Json.spells_boolean truth)
    exact .truth truth

/-- The entries of a JSON file are its members. -/
theorem read?_jsonDocument (front back : Json.Blanks) {first : Json.Member}
    {further : List Json.Member} (distinct : (first :: further).Pairwise (·.name ≠ ·.name)) :
    Format.json.read? (Json.document front first further back) =
      some ((first :: further).map fun member => (member.name, .ofJson member.value)) := by
  show readJson? _ = _
  rw [readJson?, Json.read?_document front back (List.pairwise_map.mpr distinct)]
  simp only [List.map_map]
  rfl

/-- A member of a JSON file that means a word is a number that is written. -/
theorem isWritten_of_json {front back : Json.Blanks} {first member : Json.Member}
    {further : List Json.Member}
    (chooses : Chooses requested files name .json (Json.document front first further back))
    (among : member ∈ first :: further) (named : member.name = numeric.field.name)
    (written : JsonMeans member.chars word)
    (distinct : (first :: further).Pairwise (·.name ≠ ·.name))
    (leads : ∀ other ∈ first :: further, (Path.ofName other.name).root = numeric.field.name →
      other.name = numeric.field.name)
    (noVariable : ∀ assignment ∈ environment.assignments,
      assignment.path.root ≠ numeric.field.name) :
    numeric.IsWritten word requested files environment := by
  refine isWritten_of_mem chooses (read?_jsonDocument front back distinct)
    (List.mem_map.mpr ⟨member, among, ?_⟩) (List.pairwise_map.mpr distinct)
    (List.forall_mem_map.mpr leads) noVariable (means_ofJson member.spells written)
  rw [named]

/-- A line of a TOML file means a word: its value is the decimal text of the word, or else the word
for a truth value. -/
def TomlMeans (chars : List Char) (word : Int64) : Prop :=
  chars = (toString word.toInt).toList ∨
    ∃ truth, chars = (toString truth).toList ∧ word = ofTruth truth

theorem means_of_toml {chars : List Char} {tokens : List Toml.Token} {value : Value}
    (spells : Toml.Spells chars tokens value) (written : TomlMeans chars word) :
    value.Means word := by
  rcases written with rfl | ⟨truth, rfl, rfl⟩
  · obtain rfl := spells.unique (Toml.spells_integer word)
    exact .number (.inl rfl)
  · obtain rfl := spells.unique (Toml.spells_boolean truth)
    exact .truth truth

/-- The entries of a TOML file are its lines. -/
theorem read?_tomlDocument {lines : List Toml.Line}
    (distinct : lines.Pairwise (·.name ≠ ·.name)) :
    Format.toml.read? (Toml.document lines) = some (lines.map Toml.Line.entry) :=
  Toml.read?_document distinct

/-- The name of a line leads into no value. -/
theorem isPlain_name (line : Toml.Line) : IsPlain line.name := by
  intro char member
  have word := line.word char member
  constructor <;> rintro rfl <;> exact absurd word (by decide)

/-- A line of a TOML file that means a word is a number that is written. -/
theorem isWritten_of_toml {lines : List Toml.Line} {line : Toml.Line}
    (chooses : Chooses requested files name .toml (Toml.document lines)) (among : line ∈ lines)
    (named : line.name = numeric.field.name) (written : TomlMeans line.chars word)
    (distinct : lines.Pairwise (·.name ≠ ·.name))
    (noVariable : ∀ assignment ∈ environment.assignments,
      assignment.path.root ≠ numeric.field.name) :
    numeric.IsWritten word requested files environment := by
  refine isWritten_of_mem chooses (read?_tomlDocument distinct) ?_
    (List.pairwise_map.mpr distinct) (List.forall_mem_map.mpr fun other _ root => ?_) noVariable
    (means_of_toml line.spells written)
  · rw [← named]
    exact List.mem_map_of_mem among
  · rw [Toml.Line.entry, Path.ofName_of_isPlain (isPlain_name other)] at root
    exact root

/-! ### One field alone -/

theorem root_ofName_name_ne {field : Field} (other : field ≠ numeric.field) :
    (Path.ofName numeric.field.name).root ≠ field.name := by
  rw [ofName_name]
  cases numeric <;> cases field <;> first | decide | exact absurd rfl other

/-- A file of one entry leaves the other fields at their defaults. -/
theorem gets_default_of_entry {field : Field} {value : Value}
    (read : readSource requested files = .ok (some ⟨name, [(numeric.field.name, value)]⟩))
    (other : field ≠ numeric.field) : field.Gets requested files [] (field.content {}) :=
  Field.gets_default read (List.forall_mem_singleton.mpr (root_ofName_name_ne other))

/-- A variable alone leaves the other fields at their defaults. -/
theorem gets_default_of_variable {field : Field} {variableName text : String}
    (read : readSource requested files = .ok none)
    (named : numeric.field.IsNamedBy variableName) (other : field ≠ numeric.field) :
    field.Gets requested files [(variableName, text)] (field.content {}) := by
  refine Field.gets_default read ?_
  rw [← List.nil_append [(variableName, text)], Environment.assignments_append_cons _ _
    ((variableName?_eq_some_name_iff _ _).mpr named)]
  exact List.forall_mem_singleton.mpr (root_ofName_name_ne other)

/-! ### Any two places -/

/-- A number means the same however it is written. Settings load, and are the same, from any two
places where a field for numbers is given the same word: as an integer in a settings file, as its
decimal text in the file or in a variable of the field, and as a truth value or a word for it where
the word is one or zero. The other fields may have any values that convert, as long as both places
give them the same. The field then holds the word modulo the numbers that it has room for. In the
text of a JSON file the decimal text of the word is such an integer, from the least word to the
greatest, and between quotes it is such a text; in a TOML file it is such an integer as well. -/
theorem number_means_the_same (numeric : NumberField) (word : Int64) :
    (∀ (requested otherRequested : String) (files otherFiles : List File)
      (environment otherEnvironment : Environment),
      numeric.IsWritten word requested files environment →
      numeric.IsWritten word otherRequested otherFiles otherEnvironment →
      (∀ field ≠ numeric.field, ∃ content, field.Gets requested files environment content ∧
        field.Gets otherRequested otherFiles otherEnvironment content) →
      ∃ loaded, load requested files environment = .ok loaded ∧
        load otherRequested otherFiles otherEnvironment = .ok loaded ∧
        (numeric.held loaded : Int) = word.toInt % 2 ^ numeric.width) ∧
    ∀ (requested name : String) (files : List File) (environment : Environment),
      (∀ assignment ∈ environment.assignments, assignment.path.root ≠ numeric.field.name) →
      (∀ (front back : Json.Blanks) (first member : Json.Member) (further : List Json.Member),
        Chooses requested files name .json (Json.document front first further back) →
        member ∈ first :: further → member.name = numeric.field.name →
        JsonMeans member.chars word → (first :: further).Pairwise (·.name ≠ ·.name) →
        (∀ other ∈ first :: further, (Path.ofName other.name).root = numeric.field.name →
          other.name = numeric.field.name) →
        numeric.IsWritten word requested files environment) ∧
      ∀ (lines : List Toml.Line) (line : Toml.Line),
        Chooses requested files name .toml (Toml.document lines) → line ∈ lines →
        line.name = numeric.field.name → TomlMeans line.chars word →
        lines.Pairwise (·.name ≠ ·.name) → numeric.IsWritten word requested files environment := by
  refine ⟨fun _ _ _ _ _ _ written again others => written.exists_loaded again others,
    fun requested name files environment noVariable => ⟨?_, ?_⟩⟩
  · intro front back first member further chooses among named written distinct leads
    exact isWritten_of_json chooses among named written distinct leads noVariable
  · intro lines line chooses among named written distinct
    exact isWritten_of_toml chooses among named written distinct noVariable

/-- The least word as a deadline for answers, as a member of a JSON file. -/
def leastDeadline : Json.Member where
  name := "read_timeout_ms"
  value := .integer Int64.minValue.toInt
  chars := (toString Int64.minValue.toInt).toList
  spells := Json.spells_integer Int64.minValue
  lead := .none
  beforeColon := .none
  behindColon := .space
  trail := .none

/-- A truth value as a deadline for answers, as a line of a TOML file. -/
def trueDeadline : Toml.Line where
  name := "read_timeout_ms"
  value := .boolean true
  chars := (toString true).toList
  tokens := [.word (toString true).toList]
  spells := Toml.spells_boolean true
  nonempty := by decide
  word := List.all_eq_true.mp (by decide)
  lead := .none
  behindName := .space
  behindSign := .space
  trail := .none

/-- The least word is loaded as the same deadline from a JSON file and from a variable, and one is
loaded from a truth value in a TOML file as from a word for it in a variable. -/
theorem number_means_the_same_of_deadlines :
    let json : File :=
      { name := "config.json", content := "\x7b\"read_timeout_ms\": -9223372036854775808\x7d" }
    let toml : File := { name := "config.toml", content := "read_timeout_ms = true\n" }
    (∃ loaded : Settings, load "config" [json] [] = .ok loaded ∧
      load "config" [] [("SQLCHAIN_READ_TIMEOUT_MS", "-9223372036854775808")] = .ok loaded ∧
      (readTimeout.held loaded : Int) = 9223372036854775808) ∧
    ∃ loaded : Settings, load "config" [toml] [] = .ok loaded ∧
      load "config" [] [("sqlchain_Read_Timeout_ms", "Yes")] = .ok loaded ∧
      (readTimeout.held loaded : Int) = 1 := by
  intro json toml
  obtain ⟨leastAlike, leastInFiles⟩ := number_means_the_same readTimeout Int64.minValue
  obtain ⟨oneAlike, oneInFiles⟩ := number_means_the_same readTimeout (ofTruth true)
  have noVariable : ∀ assignment ∈ Environment.assignments [],
      assignment.path.root ≠ readTimeout.field.name := List.forall_mem_nil _
  -- The files hold the member and the line.
  have found (file : File) :
      ([file].find? fun other => other.name = file.name).map File.content = some file.content :=
    congrArg (Option.map File.content) (List.find?_cons_of_pos (decide_eq_true rfl))
  have jsonText : Json.document .none leastDeadline [] .none = json.content := by cbv
  have choosesJson : Chooses "config" [json] "config.json" .json
      (Json.document .none leastDeadline [] .none) := ⟨by cbv, jsonText ▸ found json⟩
  have tomlText : Toml.document [trueDeadline] = toml.content := by cbv
  have choosesToml : Chooses "config" [toml] "config.toml" .toml (Toml.document [trueDeadline]) :=
    ⟨by cbv, tomlText ▸ found toml⟩
  have inJson : readTimeout.IsWritten Int64.minValue "config" [json] [] :=
    (leastInFiles _ _ _ _ noVariable).1 .none .none leastDeadline leastDeadline [] choosesJson
      (.head _) rfl (.inl rfl) (List.pairwise_singleton _ _)
      (List.forall_mem_singleton.mpr fun _ => rfl)
  have inToml : readTimeout.IsWritten (ofTruth true) "config" [toml] [] :=
    (oneInFiles _ _ _ _ noVariable).2 [trueDeadline] trueDeadline choosesToml (.head _) rfl
      (.inr ⟨true, rfl, rfl⟩) (List.pairwise_singleton _ _)
  -- The variables hold a decimal text and a word.
  have decimal : (Value.text "-9223372036854775808").Means Int64.minValue :=
    .number (.inr (by decide))
  have listed : "yes" ∈ truthWords true := by decide
  have spelled : InAnyCase "Yes" "yes" := by
    unfold InAnyCase
    decide
  have named : readTimeout.field.IsNamedBy "SQLCHAIN_READ_TIMEOUT_MS" := by
    unfold Field.IsNamedBy
    decide
  have namedMixed : readTimeout.field.IsNamedBy "sqlchain_Read_Timeout_ms" := by
    unfold Field.IsNamedBy
    decide
  have readJson := choosesJson.readSource_eq
    (read?_jsonDocument _ _ (List.pairwise_singleton _ _))
  have readToml := choosesToml.readSource_eq (read?_tomlDocument (List.pairwise_singleton _ _))
  have inVariable : readTimeout.IsWritten Int64.minValue "config" []
      ([] ++ [("SQLCHAIN_READ_TIMEOUT_MS", "-9223372036854775808")]) :=
    .inVariable decimal rfl named noVariable
  have inMixedVariable : readTimeout.IsWritten (ofTruth true) "config" []
      ([] ++ [("sqlchain_Read_Timeout_ms", "Yes")]) :=
    .inVariable (.truthWord listed spelled) rfl namedMixed noVariable
  exact ⟨leastAlike _ _ _ _ _ _ inJson inVariable
      fun field other => ⟨_, gets_default_of_entry readJson other,
        gets_default_of_variable rfl named other⟩,
    oneAlike _ _ _ _ _ _ inToml inMixedVariable
      fun field other => ⟨_, gets_default_of_entry readToml other,
        gets_default_of_variable rfl namedMixed other⟩⟩

end NumberField

end SqlLedger.Configuration
