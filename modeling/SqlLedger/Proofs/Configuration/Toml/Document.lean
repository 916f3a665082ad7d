/-
TOML files are read line by line.

A file is written here as lines that each give a name its value, with blanks wherever a line allows
for them, and with any text of the value that is cut into tokens of its own and that the reader
takes for the value there (`Spells`). Decimal texts of words and the words for truth values are
such. A line takes the reader from its first token to the token behind its end, so a file is read as
its lines in their order (`read?_document`), as long as no name stands in two of them.
-/

import SqlLedger.Configuration.Toml
import SqlLedger.Proofs.Configuration.Toml.Token
import SqlLedger.Proofs.Text.Numeral

namespace SqlLedger.Configuration.Toml

/-! ### Values -/

/-- What stands behind a value: a blank or the end of the line. -/
def endsValue (char : Char) : Bool :=
  isBlank char || char = '\n'

/-- The tokens of what stands behind a value. -/
def Token.endsValue : Token → Bool
  | .blanks _ | .lineEnd => true
  | _ => false

/-- A text is cut into tokens that spell a value: the reader takes them for the value where the line
ends, at once or behind blanks. -/
structure Spells (chars : List Char) (tokens : List Token) (value : Value) : Prop where
  noReturn : '\r' ∉ chars
  opens : ∃ char rest, chars = char :: rest ∧ isBlank char = false
  begins : ∃ first rest, tokens = first :: rest ∧ ∀ blanks, first ≠ .blanks blanks
  cuts : ∀ {rest : List Char} {behind : List Token}, (∀ char ∈ rest.head?, endsValue char = true) →
    Cuts rest behind → Cuts (chars ++ rest) (tokens ++ behind)
  reads : ∀ {fuel : Nat} {next : Token} (rest : List Token), tokens.length ≤ fuel →
    next.endsValue = true → readValue? fuel (tokens ++ next :: rest) = some (value, next :: rest)

/-- A text spells one value at most. -/
theorem Spells.unique {chars : List Char} {tokens others : List Token} {value other : Value}
    (spells : Spells chars tokens value) (again : Spells chars others other) : value = other := by
  have lineEnd : Cuts ['\n'] [.lineEnd] := Cuts.mark rfl Cuts.nil
  have ends : ∀ char ∈ ['\n'].head?, endsValue char = true := by
    rintro _ ⟨⟩
    rfl
  have cut := (spells.cuts ends lineEnd).unique (again.cuts ends lineEnd)
  obtain rfl := List.append_cancel_right cut
  have read : readValue? tokens.length (tokens ++ [.lineEnd]) = some (value, [.lineEnd]) :=
    spells.reads [] le_rfl rfl
  rw [again.reads [] le_rfl rfl] at read
  exact (congrArg Prod.fst (Option.some.inj read)).symm

theorem isWordChar_eq_false_of_endsValue {char : Char} (ends : endsValue char = true) :
    isWordChar char = false := by
  simp only [endsValue, isBlank, Bool.or_eq_true, decide_eq_true_eq] at ends
  rcases ends with (rfl | rfl) | rfl <;> decide

/-- A word that the reader takes for a value spells it. -/
theorem spells_of_readWord? {chars : List Char} {value : Value} (nonempty : chars ≠ [])
    (word : ∀ char ∈ chars, isWordChar char = true)
    (reads : ∀ {next : Token} (rest : List Token), next.endsValue = true →
      readWord? chars (next :: rest) = some (value, next :: rest)) :
    Spells chars [.word chars] value where
  noReturn := fun member => absurd (word '\r' member) (by decide)
  opens := by
    obtain ⟨char, rest, rfl⟩ := List.exists_cons_of_ne_nil nonempty
    exact ⟨char, rest, rfl, isBlank_eq_false_of_isWordChar (word char List.mem_cons_self)⟩
  begins := ⟨.word chars, [], rfl, nofun⟩
  cuts := fun ends cuts => Cuts.word nonempty word
    (fun char first => isWordChar_eq_false_of_endsValue (ends char first)) cuts
  reads := by
    intro fuel next rest enough ends
    obtain ⟨fuel, rfl⟩ : ∃ less, fuel = less + 1 := ⟨fuel - 1, (Nat.sub_add_cancel enough).symm⟩
    rw [List.singleton_append, readValue?]
    exact reads rest ends

/-! ### Truth values -/

theorem spells_boolean (value : Bool) :
    Spells (toString value).toList [.word (toString value).toList] (.boolean value) := by
  have word : ∀ char ∈ (toString value).toList, isWordChar char = true := by
    cases value <;> exact List.all_eq_true.mp (by decide)
  cases value with
  | true => exact spells_of_readWord? (by decide) word fun _ _ => rfl
  | false => exact spells_of_readWord? (by decide) word fun _ _ => rfl

/-! ### Decimal texts -/

theorem digitIn?_of_isDigit {char : Char} (digit : char.isDigit = true) :
    Text.digitIn? 10 char = some (char.toNat - '0'.toNat) := by
  have range := (Text.isDigit_iff char).mp digit
  have least : 48 ≤ char.toNat := range.1
  have small : char.toNat ≤ 57 := range.2
  have zero : '0'.toNat = 48 := rfl
  rw [Text.digitIn?, Text.hexValue?, if_pos range]
  exact if_pos (by omega)

theorem takeMore?_of_isDigit {chars : List Char} (digits : ∀ char ∈ chars, char.isDigit = true) :
    takeMore? 10 chars = some (chars.map fun char => char.toNat - '0'.toNat, []) := by
  induction chars with
  | nil => rfl
  | cons char chars inductionHypothesis =>
    obtain ⟨digit, digits⟩ := List.forall_mem_cons.mp digits
    have notUnderscore : char ≠ '_' := by
      rintro rfl
      exact absurd digit (by decide)
    rw [takeMore?]
    · simp only [digitIn?_of_isDigit digit, inductionHypothesis digits]
      rfl
    · exact fun same _ => notUnderscore same
    · exact fun _ _ same => absurd same notUnderscore

theorem takeWhole?_toDigits (number : Nat) :
    takeWhole? (Nat.toDigits 10 number) = some (Text.digitValues number, []) := by
  have decimal : ∀ char ∈ Nat.toDigits 10 number, char.isDigit = true := fun _ =>
    Text.isDigit_of_mem_toDigits
  have taken : takeDigits? 10 (Nat.toDigits 10 number) = some (Text.digitValues number, []) := by
    rw [Text.digitValues]
    cases digits : Nat.toDigits 10 number with
    | nil => exact absurd digits Nat.toDigits_ne_nil
    | cons char rest =>
      rw [digits] at decimal
      obtain ⟨digit, further⟩ := List.forall_mem_cons.mp decimal
      simp only [takeDigits?, Option.bind_eq_bind, digitIn?_of_isDigit digit, Option.bind_some,
        takeMore?_of_isDigit further]
      rfl
  rw [takeWhole?, taken]
  split
  · rename_i opens
    exact absurd (congrArg (fun taken => taken.map Prod.fst) opens) fun same =>
      Text.digitValues_ne_zero_cons_cons number _ _ (Option.some.inj same)
  · rfl

/-- The decimal text of a signed word is the integer. -/
theorem decimal?_toString (word : Int64) :
    decimal? (toString word.toInt).toList = some (.integer word) := by
  have held : integer? word.toInt = some (.integer word) := by
    rw [integer?, Text.signed64?_toInt]
    rfl
  rcases value : word.toInt with number | number
  · rw [value] at held
    have unsigned : takeSign (Nat.toDigits 10 number) = (false, Nat.toDigits 10 number) := by
      unfold takeSign
      split
      · rename_i hyphen
        have digit := Text.isDigit_of_mem_toDigits (hyphen ▸ List.mem_cons_self)
        exact absurd digit (by decide)
      · rfl
    rw [Int.ofNat_eq_natCast, Text.toList_toString_natCast, decimal?, unsigned]
    simp only [takeWhole?_toDigits, Text.ofDigits_digitValues]
    exact held
  · rw [value] at held
    rw [Text.toList_toString_negSucc, decimal?, takeSign]
    simp only [takeWhole?_toDigits, Text.ofDigits_digitValues]
    exact held

theorem notMem_toString {number : Int} {letter : Char} (noDigit : letter.isDigit = false)
    (noHyphen : letter ≠ '-') : letter ∉ (toString number).toList := by
  intro member
  rcases Text.isDigit_or_eq_hyphen_of_mem_toString number letter member with digit | hyphen
  · exact absurd (digit.symm.trans noDigit) (by decide)
  · exact noHyphen hyphen

/-- No hyphen stands behind the first character of a decimal text. -/
theorem hyphen_notMem_drop_toString (number : Int) : '-' ∉ (toString number).toList.drop 1 := by
  have digits {count : Nat} : '-' ∉ Nat.toDigits 10 count := fun member =>
    absurd (Text.isDigit_of_mem_toDigits member) (by decide)
  rcases number with number | number
  · rw [Int.ofNat_eq_natCast, Text.toList_toString_natCast]
    exact fun member => digits (List.mem_of_mem_drop member)
  · rw [Text.toList_toString_negSucc]
    exact digits

theorem looksLikeDay_toString (number : Int) : looksLikeDay (toString number).toList = false := by
  have upper : 'T' ∉ (toString number).toList := notMem_toString (by decide) (by decide)
  have lower : 't' ∉ (toString number).toList := notMem_toString (by decide) (by decide)
  simp only [looksLikeDay, decide_eq_false upper, decide_eq_false lower,
    decide_eq_false (hyphen_notMem_drop_toString number), Bool.false_and, Bool.or_self]

theorem named?_toString (number : Int) : named? (toString number).toList = none := by
  have letter : 'n' ∉ (toString number).toList := notMem_toString (by decide) (by decide)
  unfold named?
  split
  case h_5 => rfl
  all_goals
    rename_i same
    rw [same] at letter
    exact absurd letter (by decide)

/-- The decimal text of a word is read as the integer, if no point follows. -/
theorem readNumber?_toString (word : Int64) {next : Token} (rest : List Token)
    (ends : next.endsValue = true) :
    readNumber? (toString word.toInt).toList (next :: rest) =
      some (.integer word, next :: rest) := by
  have read := decimal?_toString word
  have noName := named?_toString word.toInt
  have letter (char : Char) (noDigit : char.isDigit = false) (noHyphen : char ≠ '-') :
      char ∉ (toString word.toInt).toList := notMem_toString noDigit noHyphen
  generalize (toString word.toInt).toList = chars at *
  unfold readNumber?
  split
  · exact absurd (.tail _ (.head _)) (letter 'x' (by decide) (by decide))
  · exact absurd (.tail _ (.head _)) (letter 'o' (by decide) (by decide))
  · exact absurd (.tail _ (.head _)) (letter 'b' (by decide) (by decide))
  · rw [if_neg (not_or.mpr ⟨letter 'e' (by decide) (by decide),
        letter 'E' (by decide) (by decide)⟩),
      noName, read]
    cases next <;> first | rfl | cases ends

theorem readWord?_toString (word : Int64) {next : Token} (rest : List Token)
    (ends : next.endsValue = true) :
    readWord? (toString word.toInt).toList (next :: rest) =
      some (.integer word, next :: rest) := by
  obtain ⟨char, further, text, opens⟩ := Text.exists_toList_toString_eq_cons word.toInt
  have noTruth {letter : Char} {more : List Char} (noDigit : letter.isDigit = false)
      (noHyphen : letter ≠ '-') : (toString word.toInt).toList ≠ letter :: more := fun same =>
    notMem_toString noDigit noHyphen (same ▸ List.mem_cons_self)
  have numeric : (toString word.toInt).toList.head?.any
      (fun char => char.isDigit || decide (char = '-')) = true := by
    rw [text, List.head?_cons, Option.any_some]
    rcases opens with digit | rfl
    · rw [digit, Bool.true_or]
    · rfl
  have noDay : ¬ (looksLikeDay (toString word.toInt).toList = true ∨
      (next :: rest).head? = some .colon) := by
    rw [looksLikeDay_toString]
    rintro (⟨⟨⟩⟩ | colon)
    cases Option.some.inj colon
    cases ends
  rw [readWord?, if_neg (noTruth (by decide) (by decide)), if_neg (noTruth (by decide) (by decide)),
    if_pos (Or.inr (Or.inr numeric)), if_neg noDay, readNumber?_toString word rest ends]

theorem spells_integer (word : Int64) :
    Spells (toString word.toInt).toList [.word (toString word.toInt).toList] (.integer word) := by
  obtain ⟨first, further, text, -⟩ := Text.exists_toList_toString_eq_cons word.toInt
  refine spells_of_readWord? (text ▸ List.cons_ne_nil first further) ?_
    (fun rest ends => readWord?_toString word rest ends)
  intro char member
  rcases Text.isDigit_or_eq_hyphen_of_mem_toString _ char member with digit | rfl
  · rw [isWordChar, Char.isAlphanum, digit, Bool.or_true]
    rfl
  · decide

/-! ### Lines -/

/-- A line as it is written: its name and the text of its value with its tokens, and the blanks in
front of the name, on both sides of the sign between them, and behind the value. -/
structure Line where
  name : String
  value : Value
  chars : List Char
  tokens : List Token
  spells : Spells chars tokens value
  nonempty : name.toList ≠ []
  word : ∀ char ∈ name.toList, isWordChar char = true
  lead : Gap
  behindName : Gap
  behindSign : Gap
  trail : Gap

namespace Line

/-- The text of a line with its end. -/
def text (line : Line) : List Char :=
  line.lead.val ++ (line.name.toList ++ (line.behindName.val ++ '=' :: (line.behindSign.val ++
    (line.chars ++ (line.trail.val ++ ['\n'])))))

/-- What a line is read as. -/
def entry (line : Line) : String × Value :=
  (line.name, line.value)

/-- The key of a line with its value. -/
def pair (line : Line) : Pair :=
  ⟨[line.name], line.value⟩

/-- The tokens of a line behind its name. -/
def tokensBehindName (line : Line) : List Token :=
  line.behindName.tokens ++ .equals :: (line.behindSign.tokens ++
    (line.tokens ++ (line.trail.tokens ++ [.lineEnd])))

/-- All tokens of a line. -/
def allTokens (line : Line) : List Token :=
  line.lead.tokens ++ .word line.name.toList :: line.tokensBehindName

theorem cuts (line : Line) {rest : List Char} {behind : List Token} (cuts : Cuts rest behind) :
    Cuts (line.text ++ rest) (line.allTokens ++ behind) := by
  obtain ⟨first, further, opens, notBlank⟩ := line.spells.opens
  obtain ⟨letter, letters, named⟩ := List.exists_cons_of_ne_nil line.nonempty
  have word : isWordChar letter = true := line.word letter (named ▸ List.mem_cons_self)
  have lineEnd : Cuts ('\n' :: rest) (.lineEnd :: behind) := Cuts.mark rfl cuts
  have trail := line.trail.cuts (by decide) lineEnd
  have ends : ∀ char ∈ (line.trail.val ++ '\n' :: rest).head?, endsValue char = true := by
    intro char member
    rw [endsValue, Bool.or_eq_true, decide_eq_true_eq]
    exact line.trail.isBlank_or_eq_of_mem_head? char member
  have value := line.spells.cuts ends trail
  rw [opens, List.cons_append] at value
  have equals : ofMark? '=' = some .equals := rfl
  have sign := Cuts.mark equals (line.behindSign.cuts notBlank value)
  have nameEnds : ∀ char ∈ (line.behindName.val ++ '=' :: (line.behindSign.val ++
      first :: (further ++ (line.trail.val ++ '\n' :: rest)))).head?, isWordChar char = false := by
    intro char member
    rcases line.behindName.isBlank_or_eq_of_mem_head? char member with blank | rfl
    · exact isWordChar_eq_false_of_endsValue (by rw [endsValue, blank, Bool.true_or])
    · decide
  have name := Cuts.word line.nonempty line.word nameEnds (line.behindName.cuts (by decide) sign)
  rw [named, List.cons_append] at name
  have whole := line.lead.cuts (isBlank_eq_false_of_isWordChar word) name
  simp only [text, allTokens, tokensBehindName, named, opens, List.append_assoc, List.cons_append,
    List.nil_append]
  exact whole

end Line

/-- A file of lines. -/
def document (lines : List Line) : String :=
  String.ofList (lines.flatMap Line.text)

theorem cuts_flatMap (lines : List Line) :
    Cuts (lines.flatMap Line.text) (lines.flatMap Line.allTokens) := by
  induction lines with
  | nil => exact Cuts.nil
  | cons line lines inductionHypothesis =>
    rw [List.flatMap_cons, List.flatMap_cons]
    exact line.cuts inductionHypothesis

/-! ### Reading lines -/

theorem Gap.skipBlanks_append (gap : Gap) {token : Token}
    (notBlanks : ∀ blanks, token ≠ .blanks blanks) (rest : List Token) :
    skipBlanks (gap.tokens ++ token :: rest) = token :: rest := by
  have kept : skipBlanks (token :: rest) = token :: rest := by
    unfold skipBlanks
    split
    · rename_i same
      exact absurd (List.cons.inj same).1 (notBlanks _)
    · rfl
  rw [tokens]
  split
  · exact kept
  · rfl

theorem Gap.skipLines?_append_word (gap : Gap) (chars : List Char) (rest : List Token) :
    skipLines? (gap.tokens ++ .word chars :: rest) = some (.word chars :: rest) := by
  rw [tokens]
  split <;> rfl

/-- A value ends where the blanks in front of the end of its line begin. -/
theorem Gap.exists_endsValue (gap : Gap) (rest : List Token) :
    ∃ next more, gap.tokens ++ .lineEnd :: rest = next :: more ∧ next.endsValue = true := by
  rw [tokens]
  split
  · exact ⟨_, _, rfl, rfl⟩
  · exact ⟨_, _, rfl, rfl⟩

theorem endLine?_append (trail : Gap) (rest : List Token) :
    endLine? (trail.tokens ++ .lineEnd :: rest) = some rest := by
  have lineEnd : ∀ blanks, Token.lineEnd ≠ .blanks blanks := nofun
  rw [endLine?, trail.skipBlanks_append lineEnd]

namespace Line

/-- A line is read up to its end. -/
theorem readPair?_append (line : Line) {fuel : Nat} (enough : line.tokens.length < fuel)
    (rest : List Token) :
    readPair? fuel (.word line.name.toList :: line.tokensBehindName ++ rest) =
      some (line.pair, rest) := by
  have key : takeKey? fuel (.word line.name.toList :: line.tokensBehindName ++ rest) =
      some ([line.name], .equals :: (line.behindSign.tokens ++
        (line.tokens ++ (line.trail.tokens ++ .lineEnd :: rest)))) := by
    obtain ⟨fuel, rfl⟩ : ∃ less, fuel = less + 1 := ⟨fuel - 1, by omega⟩
    have name (more : List Token) : takeName? (skipBlanks (.word line.name.toList :: more)) =
        some (line.name, more) := by
      rw [skipBlanks, takeName?, String.ofList_toList]
      exact nofun
    have equals : ∀ blanks, Token.equals ≠ .blanks blanks := nofun
    have sign (more : List Token) : skipBlanks (line.behindName.tokens ++ .equals :: more) =
        .equals :: more := line.behindName.skipBlanks_append equals more
    simp only [tokensBehindName, List.append_assoc, List.cons_append, List.nil_append]
    rw [takeKey?]
    simp only [name, Option.bind_eq_bind, Option.bind_some, sign]
    rfl
  obtain ⟨first, further, begins, notBlanks⟩ := line.spells.begins
  obtain ⟨next, more, trail, ends⟩ := line.trail.exists_endsValue rest
  have value := line.spells.reads more enough.le ends
  have behindSign : skipBlanks (line.behindSign.tokens ++
      (line.tokens ++ (line.trail.tokens ++ .lineEnd :: rest))) =
      line.tokens ++ (line.trail.tokens ++ .lineEnd :: rest) := by
    rw [begins, List.cons_append, line.behindSign.skipBlanks_append notBlanks]
  rw [readPair?, key]
  simp only [Option.bind_eq_bind, Option.bind_some, behindSign]
  rw [trail, value]
  simp only [Option.bind_some, ← trail, endLine?_append]
  rfl

theorem length_tokens_lt (line : Line) : line.tokens.length < line.allTokens.length := by
  simp only [allTokens, tokensBehindName, List.length_append, List.length_cons]
  omega

end Line

/-- The lines of a file are read into the section that is open. -/
theorem readLines?_flatMap (lines : List Line) (content : Section) {fuel : Nat}
    (enough : (lines.flatMap Line.allTokens).length < fuel) :
    readLines? fuel content (lines.flatMap Line.allTokens) =
      some [{ content with pairs := content.pairs ++ lines.map Line.pair }] := by
  induction lines generalizing content fuel with
  | nil =>
    obtain ⟨fuel, rfl⟩ : ∃ less, fuel = less + 1 := ⟨fuel - 1, by omega⟩
    rw [List.map_nil, List.append_nil]
    rfl
  | cons line lines inductionHypothesis =>
    obtain ⟨fuel, rfl⟩ : ∃ less, fuel = less + 1 := ⟨fuel - 1, by omega⟩
    rw [List.flatMap_cons, List.length_append] at enough
    have shorter := line.length_tokens_lt
    have enoughForValue : line.tokens.length < fuel := by omega
    have pair := line.readPair?_append enoughForValue (lines.flatMap Line.allTokens)
    rw [List.flatMap_cons, Line.allTokens, List.append_assoc, List.cons_append, readLines?]
    simp only [Gap.skipLines?_append_word, Option.bind_eq_bind, Option.bind_some]
    rw [← List.cons_append, pair]
    simp only [Option.bind_some]
    rw [inductionHypothesis _ (by omega), List.append_assoc]
    rfl

/-! ### Entries -/

theorem putInto_of_forall_ne {entries : Entries} {entry : String × Value}
    (fresh : ∀ other ∈ entries, other.1 ≠ entry.1) :
    putInto entries entry = entries ++ [entry] := by
  have absent : entries.find? entry.1 = none := by
    rw [Entries.find?, List.find?_eq_none.mpr fun other among => ?_]
    · rfl
    · exact fun same => fresh other among (of_decide_eq_true same)
  have kept : entries.filter (·.1 ≠ entry.1) = entries :=
    List.filter_eq_self.mpr fun other among => decide_eq_true (fresh other among)
  simp only [putInto, absent, Entries.put, kept]

theorem foldl_putInto {entries others : Entries}
    (distinct : (others ++ entries).Pairwise (·.1 ≠ ·.1)) :
    entries.foldl putInto others = others ++ entries := by
  induction entries generalizing others with
  | nil => rw [List.foldl_nil, List.append_nil]
  | cons entry entries inductionHypothesis =>
    have fresh := fun other among =>
      (List.pairwise_append.mp distinct).2.2 other among entry List.mem_cons_self
    rw [List.append_cons] at distinct ⊢
    rw [List.foldl_cons, putInto_of_forall_ne fresh, inductionHypothesis distinct]

/-- Lines of distinct names go together. -/
theorem agree_pairs {lines : List Line} (distinct : lines.Pairwise (·.name ≠ ·.name)) :
    Pair.agree (lines.map Line.pair) := by
  refine List.pairwise_map.mpr (distinct.imp fun different => ?_)
  have apart {name other : String} (different : name ≠ other) :
      ¬ [name].isPrefixOf [other] = true := by
    rw [List.isPrefixOf_iff_prefix, List.cons_prefix_cons]
    exact fun same => different same.1
  exact ⟨apart different, apart different.symm⟩

theorem Line.return_notMem_text (line : Line) : '\r' ∉ line.text := by
  have blank (gap : Gap) : '\r' ∉ gap.val := fun member =>
    absurd (gap.property _ member) (by decide)
  have name : '\r' ∉ line.name.toList := fun member => absurd (line.word _ member) (by decide)
  have marks : '\r' ≠ '=' ∧ '\r' ≠ '\n' := by decide
  simp only [text, List.mem_append, List.mem_cons, List.not_mem_nil, blank, name,
    line.spells.noReturn, marks.1, marks.2, or_self, not_false_eq_true]

/-- The section in front of all headers gives its pairs as entries. -/
theorem entries_lines {lines : List Line} (distinct : lines.Pairwise (·.name ≠ ·.name)) :
    Section.entries [⟨[], false, lines.map Line.pair⟩] = lines.map Line.entry := by
  have given : (locate [⟨[], false, lines.map Line.pair⟩]).flatMap Located.entries =
      lines.map Line.entry := by
    show (lines.map Line.pair).filterMap _ ++ [] = _
    rw [List.append_nil, List.filterMap_map]
    exact congrFun List.filterMap_eq_map' lines
  rw [Section.entries, given, foldl_putInto, List.nil_append]
  exact List.pairwise_map.mpr distinct

/-- A file is read as its lines, whatever blanks stand in them. -/
theorem read?_document {lines : List Line} (distinct : lines.Pairwise (·.name ≠ ·.name)) :
    read? (document lines) = some (lines.map Line.entry) := by
  have noReturn : '\r' ∉ lines.flatMap Line.text := by
    intro member
    obtain ⟨line, -, among⟩ := List.mem_flatMap.mp member
    exact line.return_notMem_text among
  have enough : (lines.flatMap Line.allTokens).length <
      2 * (lines.flatMap Line.allTokens).length + 3 := by
    omega
  have agree : Section.agree [⟨[], false, lines.map Line.pair⟩] :=
    ⟨List.forall_mem_singleton.mpr (agree_pairs distinct), List.pairwise_singleton _ _⟩
  rw [read?, document, tokens?_of_cuts noReturn (cuts_flatMap lines)]
  simp only [Option.bind_eq_bind, Option.bind_some, readLines?_flatMap lines _ enough,
    List.nil_append]
  rw [if_pos agree, entries_lines distinct]

end SqlLedger.Configuration.Toml
