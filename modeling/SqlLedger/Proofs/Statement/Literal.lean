/-
A text cannot leave the literal it stands in.

What a literal says is decided by who reads it, so a reader is spelled out (`readFrom?`). It goes
along the characters behind the quote that opens the literal and remembers one thing: whether it has
just passed a backslash that still waits for its letter. Whatever stands behind such a backslash
belongs to it, and the first quote that does not ends the literal.

Reader and writer stay in step because each character is written as one unit of the reader: a
backslash with a letter that stands for the character, or the character alone if it is neither a
quote nor a backslash (`read?_escapeChar_append`). By induction on the text no backslash waits where
the text ends, so the next quote ends the literal (`read?_escape_append`). No quote before that one
does, since a literal that has ended stays as it is when more is written behind it
(`readFrom?_append`).
-/

import SqlLedger.Statement.Literal

namespace SqlLedger.Literal

/-! ### Reading a literal -/

/-- The character that a letter behind a backslash stands for. -/
def unescapeLetter (letter : Char) : Char :=
  match letter with
  | '0' => '\x00'
  | 'n' => '\n'
  | 'r' => '\r'
  | 'Z' => '\x1a'
  | _ => letter

/-- Puts a character in front of a text that was read. -/
def prepend (char : Char) (read : List Char × List Char) : List Char × List Char :=
  (char :: read.1, read.2)

/-- Reads a literal up to the first quote that is not escaped: its text, and what stands behind that
quote. The flag says that a backslash waits for its letter. If there is no such quote the literal is
left open and nothing is read. -/
def readFrom? : Bool → List Char → Option (List Char × List Char)
  | _, [] => none
  | true, letter :: rest => (readFrom? false rest).map (prepend (unescapeLetter letter))
  | false, char :: rest =>
    if char = '\'' then some ([], rest)
    else if char = '\\' then readFrom? true rest
    else (readFrom? false rest).map (prepend char)

/-- Reads a literal from behind the quote that opens it. -/
def read? (chars : List Char) : Option (List Char × List Char) :=
  readFrom? false chars

variable {char letter : Char} {chars value behind : List Char}

/-- A literal that has ended stays as it is when more is written behind it. -/
theorem readFrom?_append {waiting : Bool}
    (ended : readFrom? waiting chars = some (value, behind)) (more : List Char) :
    readFrom? waiting (chars ++ more) = some (value, behind ++ more) := by
  fun_induction readFrom? waiting chars generalizing value with
  | case1 => cases ended
  | case2 letter rest inductionHypothesis =>
    obtain ⟨⟨others, behind⟩, endedRest, same⟩ := Option.map_eq_some_iff.mp ended
    cases same
    rw [List.cons_append, readFrom?, inductionHypothesis endedRest]
    rfl
  | case3 rest =>
    cases ended
    rfl
  | case4 rest notQuote inductionHypothesis =>
    rw [List.cons_append, readFrom?, if_neg notQuote, if_pos rfl]
    exact inductionHypothesis ended
  | case5 char rest notQuote notBackslash inductionHypothesis =>
    obtain ⟨⟨others, behind⟩, endedRest, same⟩ := Option.map_eq_some_iff.mp ended
    cases same
    rw [List.cons_append, readFrom?, if_neg notQuote, if_neg notBackslash,
      inductionHypothesis endedRest]
    rfl

/-- A front of a literal is left open. -/
theorem read?_of_prefix (ended : read? chars = some (value, [])) {front : List Char}
    (isFront : front <+: chars) (proper : front ≠ chars) : read? front = none := by
  obtain ⟨more, rfl⟩ := isFront
  cases earlier : read? front with
  | none => rfl
  | some result =>
    have later := readFrom?_append earlier more
    rw [← read?, ended] at later
    have nothing : [] = result.2 ++ more := congrArg Prod.snd (Option.some.inj later)
    rw [(List.append_eq_nil_iff.mp nothing.symm).2, List.append_nil] at proper
    exact absurd rfl proper

/-! ### Reading what is written -/

theorem unescapeLetter_of_escapeLetter? (escaped : escapeLetter? char = some letter) :
    unescapeLetter letter = char := by
  unfold escapeLetter? at escaped
  split at escaped <;> cases escaped <;> rfl

theorem ne_of_escapeLetter?_eq_none (plain : escapeLetter? char = none) :
    char ≠ '\'' ∧ char ≠ '\\' := by
  constructor <;> rintro rfl <;> cases plain

/-- A character is written as one unit of the reader. -/
theorem read?_escapeChar_append (char : Char) (rest : List Char) :
    read? (escapeChar char ++ rest) = (read? rest).map (prepend char) := by
  cases escaped : escapeLetter? char with
  | some letter =>
    rw [escapeChar, escaped]
    show (read? rest).map (prepend (unescapeLetter letter)) = _
    rw [unescapeLetter_of_escapeLetter? escaped]
  | none =>
    obtain ⟨notQuote, notBackslash⟩ := ne_of_escapeLetter?_eq_none escaped
    rw [escapeChar, escaped]
    show readFrom? false (char :: rest) = _
    rw [readFrom?, if_neg notQuote, if_neg notBackslash, ← read?]

/-- A text is read back from its literal, which ends with the quote behind the text. -/
theorem read?_escape_append (text : String) (behind : List Char) :
    read? ((escape text).toList ++ '\'' :: behind) = some (text.toList, behind) := by
  rw [escape, String.toList_ofList]
  -- No backslash waits behind a written character, so the rest is read from the start of a unit.
  induction text.toList with
  | nil => rfl
  | cons char chars inductionHypothesis =>
    rw [List.flatMap_cons, List.append_assoc, read?_escapeChar_append, inductionHypothesis]
    rfl

theorem escape_injective {first second : String} (same : escape first = escape second) :
    first = second := by
  have reading := read?_escape_append first []
  rw [same, read?_escape_append second []] at reading
  exact String.toList_inj.mp (congrArg Prod.fst (Option.some.inj reading)).symm

/-! ### Control characters -/

/-- The control characters that statements and logs do not carry raw. -/
def controls : List Char :=
  ['\x00', '\n', '\r', '\x1a']

/-- A character is written without any control character: if it is one itself, it is escaped. -/
theorem notMem_controls_of_mem_escapeChar (written : Char) :
    ∀ char ∈ escapeChar written, char ∉ controls := by
  unfold escapeChar
  cases escaped : escapeLetter? written with
  | some letter =>
    rw [List.forall_mem_cons, List.forall_mem_singleton]
    unfold escapeLetter? at escaped
    split at escaped <;> cases escaped <;> decide
  | none =>
    rw [List.forall_mem_singleton]
    intro member
    simp only [controls, List.mem_cons, List.not_mem_nil, or_false] at member
    rcases member with rfl | rfl | rfl | rfl <;> cases escaped

/-- No control character stands raw inside a literal. -/
theorem notMem_controls_of_mem_escape (text : String) :
    ∀ char ∈ (escape text).toList, char ∉ controls := by
  intro char member
  rw [escape, String.toList_ofList] at member
  obtain ⟨written, -, within⟩ := List.mem_flatMap.mp member
  exact notMem_controls_of_mem_escapeChar written char within

end SqlLedger.Literal
