/-
Settings load field by field.

Loading converts the values that count for the fields in a row and ends at the first that cannot be
converted. No conversion looks at another field, so the row comes to seven separate conversions:
settings are loaded exactly if each of their fields is what the value that counts for it converts
to (`settings_eq_ok_iff`), and contents for all fields make up settings. With what counts for a
field known as what the field takes from its layers, nothing else of the sources matters: neither
entries and variables of no field, nor the entry of a field that has a variable.
-/

import Mathlib
import SqlLedger.Configuration.Load
import SqlLedger.Proofs.Configuration.Layers
import SqlLedger.Proofs.Result

namespace SqlLedger.Configuration

open Result

/-! ### One field -/

/-- What a field of the settings holds. -/
abbrev Field.Content : Field → Type
  | host => String
  | port => UInt32
  | token => Option String
  | connectTimeout | waitConnectTimeout | readTimeout | writeTimeout => UInt64

/-- The content of a field. -/
def Field.content (settings : Settings) : (field : Field) → field.Content
  | host => settings.host
  | port => settings.port
  | token => settings.token
  | connectTimeout => settings.connectTimeout
  | waitConnectTimeout => settings.waitConnectTimeout
  | readTimeout => settings.readTimeout
  | writeTimeout => settings.writeTimeout

/-- Converts a value to the type of a field. -/
def Field.convert : (field : Field) → Value → Except Found field.Content
  | host => Value.toText
  | port => fun value => value.toInteger.map fun number => number.toUInt64.toUInt32
  | token => Value.toText?
  | connectTimeout | waitConnectTimeout | readTimeout | writeTimeout => fun value =>
    value.toInteger.map Int64.toUInt64

/-- Settings with given contents. -/
def ofContents (content : (field : Field) → field.Content) : Settings where
  host := content .host
  port := content .port
  token := content .token
  connectTimeout := content .connectTimeout
  waitConnectTimeout := content .waitConnectTimeout
  readTimeout := content .readTimeout
  writeTimeout := content .writeTimeout

theorem content_ofContents (content : (field : Field) → field.Content) (field : Field) :
    field.content (ofContents content) = content field := by
  cases field <;> rfl

/-! ### All fields -/

/-- Settings are loaded if and only if each field is what the value that counts for it converts
to. -/
theorem settings_eq_ok_iff {source : Option Source} {environment : Environment}
    {loaded : Settings} : settings source environment = .ok loaded ↔
      ∀ field : Field,
        field.convert (counting source environment field).value = .ok (field.content loaded) := by
  simp only [settings, convert, bind_eq_ok_iff, mapError_eq_ok_iff]
  constructor
  · rintro ⟨host, hostRead, port, portRead, token, tokenRead, connect, connectRead, waitConnect,
      waitConnectRead, answer, answerRead, request, requestRead, same⟩
    cases same
    intro field
    cases field with
    | host => exact hostRead
    | port => exact map_eq_ok_iff.mpr ⟨port, portRead, rfl⟩
    | token => exact tokenRead
    | connectTimeout => exact map_eq_ok_iff.mpr ⟨connect, connectRead, rfl⟩
    | waitConnectTimeout => exact map_eq_ok_iff.mpr ⟨waitConnect, waitConnectRead, rfl⟩
    | readTimeout => exact map_eq_ok_iff.mpr ⟨answer, answerRead, rfl⟩
    | writeTimeout => exact map_eq_ok_iff.mpr ⟨request, requestRead, rfl⟩
  · intro converts
    obtain ⟨port, portRead, portSame⟩ := map_eq_ok_iff.mp (converts .port)
    obtain ⟨connect, connectRead, connectSame⟩ := map_eq_ok_iff.mp (converts .connectTimeout)
    obtain ⟨waitConnect, waitConnectRead, waitConnectSame⟩ :=
      map_eq_ok_iff.mp (converts .waitConnectTimeout)
    obtain ⟨answer, answerRead, answerSame⟩ := map_eq_ok_iff.mp (converts .readTimeout)
    obtain ⟨request, requestRead, requestSame⟩ := map_eq_ok_iff.mp (converts .writeTimeout)
    refine ⟨loaded.host, converts .host, port, portRead, loaded.token, converts .token, connect,
      connectRead, waitConnect, waitConnectRead, answer, answerRead, request, requestRead, ?_⟩
    rw [portSame, connectSame, waitConnectSame, answerSame, requestSame]
    rfl

/-- Settings cannot be loaded if and only if the value that counts for some field cannot be
converted. -/
theorem exists_settings_eq_error_iff {source : Option Source} {environment : Environment} :
    (∃ fault, settings source environment = .error fault) ↔
      ∃ (field : Field) (found : Found),
        field.convert (counting source environment field).value = .error found := by
  constructor
  · rintro ⟨fault, failed⟩
    -- If every field could be converted, the contents together would be settings.
    refine Classical.byContradiction fun none => ?_
    have converts : ∀ field : Field, ∃ content : field.Content,
        field.convert (counting source environment field).value = .ok content := by
      intro field
      cases converted : field.convert (counting source environment field).value with
      | ok content => exact ⟨content, rfl⟩
      | error found => exact absurd ⟨field, found, converted⟩ none
    obtain ⟨content, converts⟩ := Classical.axiomOfChoice converts
    have loaded : settings source environment = .ok (ofContents content) :=
      settings_eq_ok_iff.mpr fun field => by rw [content_ofContents, converts]
    cases failed.symm.trans loaded
  · rintro ⟨field, found, failed⟩
    cases loaded : settings source environment with
    | ok loaded' => cases failed.symm.trans (settings_eq_ok_iff.mp loaded field)
    | error fault => exact ⟨fault, rfl⟩

/-- What counts for the fields decides what is loaded, complaints included. -/
theorem settings_congr {source otherSource : Option Source}
    {environment otherEnvironment : Environment}
    (same : counting source environment = counting otherSource otherEnvironment) :
    settings source environment = settings otherSource otherEnvironment := by
  unfold settings convert
  rw [same]

/-! ### Loading -/

theorem load_of_readSource {requested : String} {files : List File} {source : Option Source}
    (read : readSource requested files = .ok source) (environment : Environment) :
    load requested files environment = (settings source environment).mapError .type := by
  rw [load, read]

theorem load_eq_ok_iff {requested : String} {files : List File} {source : Option Source}
    (read : readSource requested files = .ok source) {environment : Environment}
    {loaded : Settings} : load requested files environment = .ok loaded ↔
      ∀ field : Field,
        field.convert (counting source environment field).value = .ok (field.content loaded) := by
  rw [load_of_readSource read, mapError_eq_ok_iff, settings_eq_ok_iff]

theorem exists_load_eq_error_iff {requested : String} {files : List File} {source : Option Source}
    (read : readSource requested files = .ok source) {environment : Environment} :
    (∃ fault, load requested files environment = .error fault) ↔
      ∃ (field : Field) (found : Found),
        field.convert (counting source environment field).value = .error found := by
  rw [← exists_settings_eq_error_iff, load_of_readSource read]
  cases settings source environment with
  | ok loaded => exact ⟨nofun, nofun⟩
  | error fault => exact ⟨fun _ => ⟨fault, rfl⟩, fun _ => ⟨.type fault, rfl⟩⟩

/-- Settings are layered field by field. The value that counts for a field is the text of its
variable if there is one, or else what the file gives it, or else its default. Loading fails if and
only if the value that counts for some field cannot be converted to the type of the field, and the
settings that are loaded otherwise hold in each field what the value that counts for it converts
to. What counts for the fields decides all of the result: other sources from which the fields take
the same, such as a file with other entries for no field or for a field that has a variable, load
the same settings or fail with the same complaint. -/
theorem load_field_by_field {requested : String} {files : List File} {environment : Environment}
    {source : Option Source} (read : readSource requested files = .ok source)
    (flat : ∀ file ∈ source, file.IsFlat) (tidy : environment.IsTidy) :
    ∃ counts : Field → Sourced,
      (∀ (field : Field) (sourced : Sourced),
        field.Takes source environment sourced ↔ sourced = counts field) ∧
      ((∃ fault, load requested files environment = .error fault) ↔
        ∃ (field : Field) (found : Found), field.convert (counts field).value = .error found) ∧
      (∀ loaded : Settings, load requested files environment = .ok loaded ↔
        ∀ field : Field, field.convert (counts field).value = .ok (field.content loaded)) ∧
      ∀ (otherRequested : String) (otherFiles : List File) (otherEnvironment : Environment)
        (otherSource : Option Source),
        readSource otherRequested otherFiles = .ok otherSource →
        (∀ file ∈ otherSource, file.IsFlat) → otherEnvironment.IsTidy →
        (∀ (field : Field) (sourced : Sourced),
          field.Takes otherSource otherEnvironment sourced ↔
            field.Takes source environment sourced) →
        load otherRequested otherFiles otherEnvironment = load requested files environment := by
  have takes := fun field => Field.takes_iff_eq_counting flat tidy field
  refine ⟨counting source environment, takes, exists_load_eq_error_iff read,
    fun loaded => load_eq_ok_iff read, ?_⟩
  intro otherRequested otherFiles otherEnvironment otherSource otherRead otherFlat otherTidy same
  have counts : counting otherSource otherEnvironment = counting source environment := by
    funext field
    exact (takes field _).mp ((same field _).mp
      ((Field.takes_iff_eq_counting otherFlat otherTidy field _).mpr rfl))
  rw [load_of_readSource read, load_of_readSource otherRead, settings_congr counts]

/-- The port comes from a variable in mixed case. What the file says about it does no harm then, and
neither do an entry and a variable of no field, so all is as without the file. Without the variable
the file counts, and its port cannot be converted. -/
theorem load_field_by_field_of_overridden_port :
    let file : File :=
      { name := "config.json", content := "\x7b\"node_port\": \"many\", \"depth\": 7\x7d" }
    let environment : Environment := [("SQLCHAIN_DEPTH", "x"), ("SqlChain_Node_Port", "9000")]
    load "config" [file] environment = .ok { port := 9000 } ∧
      load "config" [] environment = load "config" [file] environment ∧
      ∃ fault, load "config" [file] [] = .error fault := by
  intro file environment
  let source : Source := ⟨"config.json", [("node_port", .text "many"), ("depth", .integer 7)]⟩
  have read : readSource "config" [file] = .ok (some source) := by cbv
  have flat : ∀ given ∈ some source, given.IsFlat := by
    rintro _ ⟨⟩
    exact ⟨by decide, by decide, by decide⟩
  have noneFlat : ∀ given ∈ (none : Option Source), given.IsFlat := by rintro _ ⟨⟩
  have tidy : environment.IsTidy := ⟨by decide, by decide⟩
  have tidyAlone : Environment.IsTidy [] := ⟨by decide, by decide⟩
  have counts : ∀ field : Field, counting source environment field =
      if field = .port then ⟨.text "9000", some environmentOrigin⟩
      else ⟨field.default?.getD .null, none⟩ := by
    intro field
    cases field <;> decide
  have countsWithout : counting none environment = counting source environment := by
    funext field
    rw [counts]
    cases field <;> decide
  obtain ⟨_, takes, -, loads, others⟩ := load_field_by_field read flat tidy
  obtain ⟨_, takesAlone, fails, -⟩ := load_field_by_field read flat tidyAlone
  refine ⟨(loads _).mpr fun field => ?_, ?_, fails.mpr ⟨.port, .text "many", ?_⟩⟩
  · rw [← (takes field _).mp ((field.takes_iff_eq_counting flat tidy _).mpr rfl), counts]
    cases field <;> rfl
  · refine others "config" [] environment none rfl noneFlat tidy fun field sourced => ?_
    rw [field.takes_iff_eq_counting noneFlat tidy, field.takes_iff_eq_counting flat tidy,
      countsWithout]
  · rw [← (takesAlone .port _).mp (.fromFile (by rintro _ ⟨⟩) rfl (.head _))]
    rfl

end SqlLedger.Configuration
