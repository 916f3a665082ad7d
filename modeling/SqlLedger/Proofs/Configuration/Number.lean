/-
Configured numbers are cut to the width of their field.

Five fields hold numbers. A number that counts for one of them, given as an integer or as its
decimal text, always converts to a word of 64 bits, so the number itself never makes the loading
fail. What the field holds afterwards is what is left of the word in the width of the field: the
number itself if it fits, and another number, without a complaint, if it does not
(`loads_number_iff_fits`). The check of addresses comes too late to notice, as it sees only what is
left.

Nothing is asked of the other entries and variables: what a field holds depends only on the last
assignment that leads to it.
-/

import Mathlib
import SqlLedger.Proofs.Client.Target
import SqlLedger.Proofs.Configuration.Load
import SqlLedger.Proofs.Text.Numeral

namespace SqlLedger.Configuration

open Result

/-! ### Decimal texts -/

/-- Digits, and all in front of them, are no letters in any case. -/
theorem isAlpha_toLower_of_le {char : Char} (before : char ≤ '9') :
    char.toLower.isAlpha = false := by
  have below : char.val.toNat ≤ 57 := before
  have notUpper : ¬ (65 ≤ char.val.toNat ∧ char.val.toNat ≤ 90) := by omega
  have notLower : ¬ (97 ≤ char.val.toNat ∧ char.val.toNat ≤ 122) := by omega
  have same : char.toLower = char := dif_neg notUpper
  rw [same]
  show (decide _ || (decide _ && decide _)) = false
  rw [← Bool.decide_and]
  exact Bool.or_eq_false_iff.mpr ⟨decide_eq_false notUpper, decide_eq_false notLower⟩

/-- The words for truth values open with letters. -/
theorem truthWord?_eq_none {text : String}
    (opens : (text.toList.map Char.toLower).head?.any Char.isAlpha = false) :
    truthWord? text = none := by
  have noWord : ∀ word : String, word.toList.head?.any Char.isAlpha = true →
      String.ofList (text.toList.map Char.toLower) ≠ word := by
    rintro word letter rfl
    rw [String.toList_ofList, opens] at letter
    exact nomatch letter
  -- Of the cases that are left, one for each word, none is that of the text.
  unfold truthWord?
  split <;> first | rfl | exact absurd ‹_› (noWord _ (by decide))

theorem truthWord?_toString (number : Int) : truthWord? (toString number) = none := by
  obtain ⟨char, rest, text, opens⟩ := Text.exists_toList_toString_eq_cons number
  refine truthWord?_eq_none ?_
  rw [text]
  refine isAlpha_toLower_of_le ?_
  rcases opens with digit | rfl
  · exact ((Text.isDigit_iff char).mp digit).2
  · decide

/-- The decimal text of a word converts to the word. -/
theorem integerOfText?_toString (word : Int64) :
    integerOfText? (toString word.toInt) = some word := by
  unfold integerOfText?
  rw [truthWord?_toString, Text.readSigned64_toString]
  rfl

/-- A value that gives a word, as an integer or as its decimal text. -/
def Value.Gives (value : Value) (word : Int64) : Prop :=
  value = .integer word ∨ value = .text (toString word.toInt)

theorem Value.Gives.isFlat {value : Value} {word : Int64} (gives : value.Gives word) :
    value.isFlat = true := by
  rcases gives with rfl | rfl <;> rfl

theorem Value.Gives.toInteger {value : Value} {word : Int64} (gives : value.Gives word) :
    value.toInteger = .ok word := by
  rcases gives with rfl | rfl
  · rfl
  · rw [Value.toInteger, integerOfText?_toString]

/-! ### The last assignment of a source -/

theorem Environment.assignments_append_cons (before after : Environment)
    {variableName name : String} (found : variableName? variableName = some name) (text : String) :
    Environment.assignments (before ++ (variableName, text) :: after) =
      Environment.assignments before ++
        ⟨.ofName name, ⟨.text text, some environmentOrigin⟩⟩ :: Environment.assignments after := by
  unfold Environment.assignments
  rw [List.filterMap_append, List.filterMap_cons_some]
  show (variableName? variableName).map _ = _
  rw [found]
  rfl

theorem Source.assignments_append_cons {file : Source} {before after : Entries} {name : String}
    {value : Value} (split : file.entries = before ++ (name, value) :: after) :
    file.assignments =
      Source.assignments ⟨file.name, before⟩ ++
        ⟨.ofName name, ⟨value, some file.name⟩⟩ :: Source.assignments ⟨file.name, after⟩ := by
  rw [Source.assignments, split, List.map_append, List.map_cons]
  rfl

/-! ### Fields that hold numbers -/

/-- The fields that hold numbers. -/
inductive NumberField
  | port
  | connectTimeout
  | waitConnectTimeout
  | readTimeout
  | writeTimeout
  deriving DecidableEq, Repr

namespace NumberField

/-- Such a field among all fields. -/
def field : NumberField → Field
  | port => .port
  | connectTimeout => .connectTimeout
  | waitConnectTimeout => .waitConnectTimeout
  | readTimeout => .readTimeout
  | writeTimeout => .writeTimeout

/-- How many bits the number has room in. -/
def width : NumberField → Nat
  | port => 32
  | connectTimeout | waitConnectTimeout | readTimeout | writeTimeout => 64

/-- The number that settings hold in a field. -/
def held (settings : Settings) : NumberField → Nat
  | port => settings.port.toNat
  | connectTimeout => settings.connectTimeout.toNat
  | waitConnectTimeout => settings.waitConnectTimeout.toNat
  | readTimeout => settings.readTimeout.toNat
  | writeTimeout => settings.writeTimeout.toNat

/-- What is left of a word in the width of a field. -/
def cut : (numeric : NumberField) → Int64 → numeric.field.Content
  | port => fun word => word.toUInt64.toUInt32
  | connectTimeout | waitConnectTimeout | readTimeout | writeTimeout => Int64.toUInt64

variable {numeric : NumberField} {word : Int64} {value : Value}

theorem convert_of_toInteger (integer : value.toInteger = .ok word) :
    numeric.field.convert value = .ok (numeric.cut word) := by
  cases numeric <;> exact map_eq_ok_iff.mpr ⟨word, integer, rfl⟩

/-- An unsigned word is what is left of the signed one modulo the number of words. -/
theorem toNat_toUInt64 (word : Int64) : (word.toUInt64.toNat : Int) = word.toInt % 2 ^ 64 := by
  have back : word.toBitVec.toNat = (word.toInt % 2 ^ 64).toNat := by
    conv_lhs => rw [← BitVec.ofInt_toInt (x := word.toBitVec), BitVec.toNat_ofInt]
    rfl
  have cut : 0 ≤ word.toInt % 2 ^ 64 := Int.emod_nonneg _ (by decide)
  show (word.toBitVec.toNat : Int) = _
  rw [back, Int.toNat_of_nonneg cut]

/-- Words of 32 bits come from those of 64, which makes no difference to the remainder. -/
theorem toNat_toUInt32 (word : Int64) :
    (word.toUInt64.toUInt32.toNat : Int) = word.toInt % 2 ^ 32 := by
  have narrowed : word.toUInt64.toUInt32.toNat = word.toUInt64.toNat % 2 ^ 32 :=
    UInt64.toNat_toUInt32 _
  rw [narrowed, Int.natCast_emod, toNat_toUInt64]
  exact Int.emod_emod_of_dvd _ (by decide)

/-- What is left of a word is its remainder modulo the numbers that the field has room for. -/
theorem held_of_content_eq_cut {loaded : Settings}
    (same : numeric.field.content loaded = numeric.cut word) :
    (numeric.held loaded : Int) = word.toInt % 2 ^ numeric.width := by
  cases numeric with
  | port =>
    refine Eq.trans ?_ (toNat_toUInt32 word)
    exact congrArg (fun content : UInt32 => (content.toNat : Int)) same
  | connectTimeout | waitConnectTimeout | readTimeout | writeTimeout =>
    refine Eq.trans ?_ (toNat_toUInt64 word)
    exact congrArg (fun content : UInt64 => (content.toNat : Int)) same

/-! ### Numbers that are supplied -/

/-- The name of the field is no path into a value. -/
theorem ofName_name (numeric : NumberField) :
    Path.ofName numeric.field.name = ⟨numeric.field.name, []⟩ := by
  refine Path.ofName_of_isPlain ?_
  cases numeric <;> decide

variable {source : Option Source} {environment : Environment} {number : Int64}

/-- The last variable that leads to a field gives it its text. -/
theorem assigned?_of_variable {before after : Environment} {variableName : String}
    (named : numeric.field.IsNamedBy variableName)
    (last : ∀ assignment ∈ Environment.assignments after,
      assignment.path.root ≠ numeric.field.name) (text : String) :
    assigned? numeric.field.name (fileAssignments source ++
      Environment.assignments (before ++ (variableName, text) :: after)) =
        some ⟨.text text, some environmentOrigin⟩ := by
  have found := (variableName?_eq_some_name_iff _ numeric.field).mpr named
  rw [Environment.assignments_append_cons _ _ found, ofName_name, ← List.append_assoc]
  exact assigned?_append_cons _ rfl last

/-- Without such a variable the last entry that leads to a field gives it its value. -/
theorem assigned?_of_entry {file : Source} {before after : Entries} (flat : value.isFlat = true)
    (split : file.entries = before ++ (numeric.field.name, value) :: after)
    (last : ∀ entry ∈ after, (Path.ofName entry.1).root ≠ numeric.field.name)
    (noVariable : ∀ assignment ∈ environment.assignments,
      assignment.path.root ≠ numeric.field.name) :
    assigned? numeric.field.name (fileAssignments (some file) ++ environment.assignments) =
      some ⟨value, some file.name⟩ := by
  have others : ∀ assignment ∈ Source.assignments ⟨file.name, after⟩,
      assignment.path.root ≠ numeric.field.name := List.forall_mem_map.mpr last
  rw [assigned?_append_of_forall_ne _ noVariable]
  show assigned? _ file.assignments = _
  rw [Source.assignments_append_cons split, ofName_name]
  exact assigned?_append_cons _ flat others

/-- The number that counts for a field: it stands in a variable of the field as decimal text, or
else in the file as an integer or as decimal text, and nothing that comes later leads to the
field. -/
inductive Supplied (source : Option Source) (environment : Environment) (numeric : NumberField)
    (number : Int64) : Prop
  | byVariable {before after : Environment} {variableName : String}
      (named : numeric.field.IsNamedBy variableName)
      (split : environment = before ++ (variableName, toString number.toInt) :: after)
      (last : ∀ assignment ∈ Environment.assignments after,
        assignment.path.root ≠ numeric.field.name)
  | byFile {file : Source} {before after : Entries} {value : Value}
      (gives : value.Gives number) (given : source = some file)
      (split : file.entries = before ++ (numeric.field.name, value) :: after)
      (last : ∀ entry ∈ after, (Path.ofName entry.1).root ≠ numeric.field.name)
      (noVariable : ∀ assignment ∈ environment.assignments,
        assignment.path.root ≠ numeric.field.name)

/-- The sources end with assigning the number that is supplied. -/
theorem Supplied.exists_assigned? (supplied : numeric.Supplied source environment number) :
    ∃ given : Sourced, given.value.Gives number ∧
      assigned? numeric.field.name (fileAssignments source ++ environment.assignments) =
        some given := by
  rcases supplied with ⟨named, rfl, last⟩ | ⟨gives, rfl, split, last, noVariable⟩
  · exact ⟨_, Or.inr rfl, assigned?_of_variable named last _⟩
  · exact ⟨_, gives, assigned?_of_entry gives.isFlat split last noVariable⟩

/-- What counts for the field converts to what is left of the number that is supplied. -/
theorem Supplied.convert_counting (supplied : numeric.Supplied source environment number) :
    numeric.field.convert (counting source environment numeric.field).value =
      .ok (numeric.cut number) := by
  obtain ⟨given, gives, assigned⟩ := supplied.exists_assigned?
  rw [counting_of_assigned? gives.isFlat assigned]
  exact convert_of_toInteger gives.toInteger

/-! ### What is loaded -/

/-- A number is left as it is by what cuts it to a width if and only if it fits. -/
theorem emod_two_pow_eq_iff (number : Int) (width : Nat) :
    number % 2 ^ width = number ↔ 0 ≤ number ∧ number < 2 ^ width := by
  have positive : (0 : Int) < 2 ^ width := Int.pow_pos (by decide)
  constructor
  · intro same
    rw [← same]
    exact ⟨Int.emod_nonneg _ positive.ne', Int.emod_lt_of_pos _ positive⟩
  · rintro ⟨least, below⟩
    exact Int.emod_eq_of_lt least below

/-- A number that is supplied never makes the loading fail: if settings cannot be loaded, it is for
another field. In settings that are loaded the field holds the number modulo the numbers that it has
room for, so it holds the number itself if and only if the number fits. A port that passes the check
of addresses afterwards is the one that was supplied if and only if that one is a port that a node
may listen on. -/
theorem loads_number_iff_fits {requested : String} {files : List File}
    (read : readSource requested files = .ok source)
    (supplied : numeric.Supplied source environment number) :
    ((∃ fault, load requested files environment = .error fault) ↔
      ∃ (field : Field) (found : Found), field ≠ numeric.field ∧
        field.convert (counting source environment field).value = .error found) ∧
    ∀ loaded : Settings, load requested files environment = .ok loaded →
      (numeric.held loaded : Int) = number.toInt % 2 ^ numeric.width ∧
      ((numeric.held loaded : Int) = number.toInt ↔
        0 ≤ number.toInt ∧ number.toInt < 2 ^ numeric.width) ∧
      (numeric = .port → loaded.home.validate = .ok () →
        ((numeric.held loaded : Int) = number.toInt ↔
          1025 ≤ number.toInt ∧ number.toInt ≤ 65535)) := by
  have converts := supplied.convert_counting
  constructor
  · rw [exists_load_eq_error_iff read]
    refine ⟨fun ⟨field, found, fails⟩ => ⟨field, found, ?_, fails⟩,
      fun ⟨field, found, _, fails⟩ => ⟨field, found, fails⟩⟩
    -- The value that counts for the field itself converts, so it is another field that fails.
    rintro rfl
    exact nomatch converts.symm.trans fails
  · intro loaded success
    have content := (load_eq_ok_iff read).mp success numeric.field
    have held := held_of_content_eq_cut (Except.ok.inj (content.symm.trans converts))
    have fits : (numeric.held loaded : Int) = number.toInt ↔
        0 ≤ number.toInt ∧ number.toInt < 2 ^ numeric.width := by
      rw [held, emod_two_pow_eq_iff]
    refine ⟨held, fits, ?_⟩
    rintro rfl passes
    obtain ⟨least, greatest⟩ := NodeAddress.hasNodePort_of_validate passes
    constructor
    · intro same
      rw [← same]
      exact ⟨Int.ofNat_le.mpr least, Int.ofNat_le.mpr greatest⟩
    · rintro ⟨least, greatest⟩
      exact fits.mpr ⟨by omega, by show _ < (2 : Int) ^ 32; omega⟩

/-- A port that fits comes from a variable and is loaded. The file gives a deadline of minus one,
and another number is loaded for it without a complaint. -/
theorem loads_number_iff_fits_of_two :
    let file : File :=
      { name := "config.json", content := "\x7b\"read_timeout_ms\": -1\x7d" }
    let environment : Environment := [("SqlChain_Node_Port", "9000")]
    ∃ loaded : Settings, load "config" [file] environment = .ok loaded ∧
      (port.held loaded : Int) = 9000 ∧ (readTimeout.held loaded : Int) ≠ -1 := by
  intro file environment
  let source : Source := ⟨"config.json", [("read_timeout_ms", .integer (-1))]⟩
  have read : readSource "config" [file] = .ok (some source) := by cbv
  have named : port.field.IsNamedBy "SqlChain_Node_Port" := by
    unfold Field.IsNamedBy
    decide
  have written : "9000" = toString (9000 : Int64).toInt := by decide
  have portSupplied : port.Supplied (some source) environment 9000 :=
    .byVariable named (congrArg (fun text => [] ++ (_, text) :: []) written) (List.forall_mem_nil _)
  have entries : source.entries = [] ++ (readTimeout.field.name, .integer (-1)) :: [] := rfl
  have timeoutSupplied : readTimeout.Supplied (some source) environment (-1) :=
    .byFile (Or.inl rfl) rfl entries (List.forall_mem_nil _) (by decide)
  have success : load "config" [file] environment =
      .ok { port := 9000, readTimeout := 18446744073709551615 } := by
    refine (load_eq_ok_iff read).mpr fun field => ?_
    cases field with
    | port => exact portSupplied.convert_counting
    | readTimeout => exact timeoutSupplied.convert_counting
    | _ => rfl
  have portLoaded := (loads_number_iff_fits read portSupplied).2 _ success
  have timeoutLoaded := (loads_number_iff_fits read timeoutSupplied).2 _ success
  refine ⟨_, success, ?_, fun same => ?_⟩
  · exact portLoaded.2.1.mpr (by decide)
  · exact absurd (timeoutLoaded.2.1.mp same) (by decide)

/-- A port beyond the range of words of 32 bits is loaded as another port, which passes the check of
addresses, and calls that manage the client's own node go there. -/
theorem unfit_port_is_loaded_as_valid :
    let environment : Environment := [("SQLCHAIN_NODE_PORT", "4294976062")]
    port.Supplied none environment 4294976062 ∧
    ∃ loaded : Settings, load "config" [] environment = .ok loaded ∧
      port.held loaded = 8766 ∧ loaded.home.validate = .ok () ∧
      ∀ (requested : NodeAddress) (reaction : Reaction),
        ((Client.mk loaded).perform .nodes requested (.reads reaction)).sent.isSome := by
  intro environment
  have named : port.field.IsNamedBy "SQLCHAIN_NODE_PORT" := by
    unfold Field.IsNamedBy
    decide
  have written : "4294976062" = toString (4294976062 : Int64).toInt := by decide
  have supplied : port.Supplied none environment 4294976062 :=
    .byVariable named (congrArg (fun text => [] ++ (_, text) :: []) written) (List.forall_mem_nil _)
  have success : load "config" [] environment = .ok { port := 8766 } := by
    refine (load_eq_ok_iff rfl).mpr fun field => ?_
    cases field with
    | port => exact supplied.convert_counting
    | _ => rfl
  have valid : (Settings.home { port := 8766 }).validate = .ok () := rfl
  refine ⟨supplied, _, success, rfl, valid, fun requested reaction => ?_⟩
  obtain ⟨field, framed, -⟩ := Client.exists_request (Client.mk { port := 8766 }) .nodes
  rw [Client.sent_perform_reads framed valid reaction]
  rfl

end NumberField

end SqlLedger.Configuration
