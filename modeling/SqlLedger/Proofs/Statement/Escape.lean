/-
Which texts stand between the quotes of a literal, and what they say.

An escaped text is a sequence of units. A unit is a character that needs no escape, or a backslash
with one of seven letters. Nothing local tells where a unit begins: in a run of backslashes every
second one opens a unit, counted from the left. So the texts are described as sequences of units
(`EscapeUnit`) and read from the left by a reader that remembers whether a backslash waits for its
letter (`unescapeFrom?`).

The reader is strict. It gives back what was written, one unit for each character
(`unescapeFrom?_flatMap_escapeChar`), and what it accepts was written: the characters behind it,
with the backslash that still waits in front of them, are the escape of the characters that it finds
(`append_eq_of_unescapeFrom?`).
-/

import SqlLedger.Proofs.Statement.Literal

namespace SqlLedger.Literal

/-! ### Units -/

/-- The characters that do not stand in a literal as they are. -/
def specials : List Char :=
  ['\\', '\'', '"', '\x00', '\n', '\r', '\x1a']

/-- The letters that a backslash may have behind it. -/
def letters : List Char :=
  ['\\', '\'', '"', '0', 'n', 'r', 'Z']

/-- The parts that an escaped text is made of. -/
inductive EscapeUnit : List Char → Prop
  | plain {char : Char} (free : char ∉ specials) : EscapeUnit [char]
  | escaped {letter : Char} (known : letter ∈ letters) : EscapeUnit ['\\', letter]

variable {char letter : Char} {chars value : List Char}

theorem mem_specials_of_escapeLetter? (escaped : escapeLetter? char = some letter) :
    char ∈ specials := by
  unfold escapeLetter? at escaped
  split at escaped <;> cases escaped <;> decide

theorem mem_letters_of_escapeLetter? (escaped : escapeLetter? char = some letter) :
    letter ∈ letters := by
  unfold escapeLetter? at escaped
  split at escaped <;> cases escaped <;> decide

theorem escapeLetter?_eq_none_iff : escapeLetter? char = none ↔ char ∉ specials := by
  have listed : specials.all fun special => (escapeLetter? special).isSome := by decide
  constructor
  · intro none member
    have escaped := List.all_eq_true.mp listed char member
    rw [none] at escaped
    cases escaped
  · intro free
    cases escaped : escapeLetter? char with
    | some letter => exact absurd (mem_specials_of_escapeLetter? escaped) free
    | none => rfl

theorem escapeLetter?_unescapeLetter (known : letter ∈ letters) :
    escapeLetter? (unescapeLetter letter) = some letter := by
  have listed : letters.all fun letter =>
      escapeLetter? (unescapeLetter letter) == some letter := by
    decide
  exact eq_of_beq (List.all_eq_true.mp listed letter known)

theorem escapeChar_of_notMem_specials (free : char ∉ specials) : escapeChar char = [char] := by
  rw [escapeChar, escapeLetter?_eq_none_iff.mpr free]

theorem escapeChar_unescapeLetter (known : letter ∈ letters) :
    escapeChar (unescapeLetter letter) = ['\\', letter] := by
  rw [escapeChar, escapeLetter?_unescapeLetter known]

/-- The units are the written characters. -/
theorem escapeUnit_iff {unit : List Char} : EscapeUnit unit ↔ ∃ char, escapeChar char = unit := by
  constructor
  · intro isUnit
    cases isUnit with
    | plain free => exact ⟨_, escapeChar_of_notMem_specials free⟩
    | escaped known => exact ⟨_, escapeChar_unescapeLetter known⟩
  · rintro ⟨char, rfl⟩
    cases escaped : escapeLetter? char with
    | some letter =>
      rw [escapeChar, escaped]
      exact .escaped (mem_letters_of_escapeLetter? escaped)
    | none =>
      rw [escapeChar, escaped]
      exact .plain (escapeLetter?_eq_none_iff.mp escaped)

/-- Sequences of units are written texts, one unit for each character. -/
theorem exists_units_iff :
    (∃ units : List (List Char), (∀ unit ∈ units, EscapeUnit unit) ∧ chars = units.flatten) ↔
      ∃ value : List Char, chars = value.flatMap escapeChar := by
  constructor
  · rintro ⟨units, areUnits, rfl⟩
    induction units with
    | nil => exact ⟨[], rfl⟩
    | cons unit units inductionHypothesis =>
      obtain ⟨isUnit, others⟩ := List.forall_mem_cons.mp areUnits
      obtain ⟨char, rfl⟩ := escapeUnit_iff.mp isUnit
      obtain ⟨value, same⟩ := inductionHypothesis others
      exact ⟨char :: value, by rw [List.flatten_cons, List.flatMap_cons, same]⟩
  · rintro ⟨value, rfl⟩
    refine ⟨value.map escapeChar, ?_, List.flatMap_def⟩
    rw [List.forall_mem_map]
    exact fun char _ => escapeUnit_iff.mpr ⟨char, rfl⟩

/-! ### Reading units from the left -/

/-- Reads units from the left. The flag says that a backslash waits for its letter. What is no
sequence of units is refused. -/
def unescapeFrom? : Bool → List Char → Option (List Char)
  | false, [] => some []
  | true, [] => none
  | true, letter :: rest =>
    if letter ∈ letters then (unescapeFrom? false rest).map (unescapeLetter letter :: ·) else none
  | false, char :: rest =>
    if char = '\\' then unescapeFrom? true rest
    else if char ∈ specials then none
    else (unescapeFrom? false rest).map (char :: ·)

/-- The text that an escaped text says, if it is one. -/
def unescape? (text : String) : Option String :=
  (unescapeFrom? false text.toList).map String.ofList

/-- A written character is read as one unit. -/
theorem unescapeFrom?_escapeChar_append (char : Char) (rest : List Char) :
    unescapeFrom? false (escapeChar char ++ rest) =
      (unescapeFrom? false rest).map (char :: ·) := by
  cases escaped : escapeLetter? char with
  | some letter =>
    rw [escapeChar, escaped]
    show unescapeFrom? true (letter :: rest) = _
    rw [unescapeFrom?, if_pos (mem_letters_of_escapeLetter? escaped),
      unescapeLetter_of_escapeLetter? escaped]
  | none =>
    have free := escapeLetter?_eq_none_iff.mp escaped
    rw [escapeChar, escaped]
    show unescapeFrom? false (char :: rest) = _
    rw [unescapeFrom?, if_neg (ne_of_escapeLetter?_eq_none escaped).2, if_neg free]

theorem unescapeFrom?_flatMap_escapeChar (value : List Char) :
    unescapeFrom? false (value.flatMap escapeChar) = some value := by
  induction value with
  | nil => rfl
  | cons char value inductionHypothesis =>
    rw [List.flatMap_cons, unescapeFrom?_escapeChar_append, inductionHypothesis]
    rfl

/-- What is read was written. A backslash that waits was written in front of what is still to be
read, as the beginning of the same unit. -/
theorem append_eq_of_unescapeFrom? {waiting : Bool}
    (read : unescapeFrom? waiting chars = some value) :
    (if waiting then ['\\'] else []) ++ chars = value.flatMap escapeChar := by
  fun_induction unescapeFrom? waiting chars generalizing value with
  | case1 =>
    cases read
    rfl
  | case2 => cases read
  | case3 letter rest known inductionHypothesis =>
    obtain ⟨others, readRest, rfl⟩ := Option.map_eq_some_iff.mp read
    have written : rest = others.flatMap escapeChar := inductionHypothesis readRest
    rw [List.flatMap_cons, escapeChar_unescapeLetter known, ← written]
    rfl
  | case4 => cases read
  | case5 rest inductionHypothesis => exact inductionHypothesis read
  | case6 => cases read
  | case7 char rest notBackslash free inductionHypothesis =>
    obtain ⟨others, readRest, rfl⟩ := Option.map_eq_some_iff.mp read
    have written : rest = others.flatMap escapeChar := inductionHypothesis readRest
    rw [List.flatMap_cons, escapeChar_of_notMem_specials free, ← written]
    rfl

theorem eq_escape_iff {text said : String} :
    text = escape said ↔ text.toList = said.toList.flatMap escapeChar := by
  rw [← String.toList_inj, escape, String.toList_ofList]

/-- Escaping has an exact image and one inverse. The texts that it makes are the sequences of units,
each a character other than the seven special ones, or a backslash with one of the seven letters;
no other text is the escape of any. An escaped text says one text only, the one that reading its
units from the left gives, and reading gives nothing else. Texts are escaped piece by piece. -/
theorem escape_exact_image :
    (∀ text, (∃ said, text = escape said) ↔
      ∃ units : List (List Char), (∀ unit ∈ units, EscapeUnit unit) ∧
        text.toList = units.flatten) ∧
    (∀ text said, text = escape said ↔ unescape? text = some said) ∧
    ∀ first second, escape (first ++ second) = escape first ++ escape second := by
  refine ⟨fun text => ?_, fun text said => ?_, fun first second => ?_⟩
  · rw [exists_units_iff]
    constructor
    · rintro ⟨said, written⟩
      exact ⟨said.toList, eq_escape_iff.mp written⟩
    · rintro ⟨value, written⟩
      exact ⟨String.ofList value, eq_escape_iff.mpr (by rw [written, String.toList_ofList])⟩
  · rw [eq_escape_iff, unescape?]
    constructor
    · intro written
      rw [written, unescapeFrom?_flatMap_escapeChar, Option.map_some, String.ofList_toList]
    · intro read
      obtain ⟨value, readUnits, rfl⟩ := Option.map_eq_some_iff.mp read
      rw [String.toList_ofList]
      exact append_eq_of_unescapeFrom? readUnits
  · rw [escape, escape, escape, String.toList_append, List.flatMap_append, String.ofList_append]

/-- Three backslashes are a unit and the beginning of one, which a quote completes and the end of
the text does not. -/
example : unescape? "\\\\\\'" = some "\\'" ∧ unescape? "\\\\\\" = none := by decide

end SqlLedger.Literal
