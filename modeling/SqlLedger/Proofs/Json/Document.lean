/-
Objects are read member by member, whatever their layout.

An object is written here as its members with the text of each value and with blanks wherever the
format allows for them, so that one statement covers what the printer makes and what a person types
into a file. The text of a value is any that the reader takes for the value where a blank, a comma
or the end of the object follows (`Spells`); decimal texts of words, quoted texts and the words for
truth values are such. The reader then finds the members in their order (`read?_document`), as each
of them takes the reader from the quote of its name to the comma or the brace behind its value,
which is the step of the induction. Names have to be distinct, since a later member replaces an
earlier one of the same name.
-/

import SqlLedger.Proofs.Json.Number
import SqlLedger.Proofs.Json.Text

namespace SqlLedger.Json

/-! ### Blanks -/

/-- Blanks, of which there may be none. -/
abbrev Blanks :=
  { chars : List Char // ∀ char ∈ chars, isBlank char = true }

/-- No blanks. -/
def Blanks.none : Blanks :=
  ⟨[], nofun⟩

/-- One space. -/
def Blanks.space : Blanks :=
  ⟨[' '], List.forall_mem_singleton.mpr rfl⟩

theorem Blanks.skipBlanks_append (gap : Blanks) (rest : List Char) :
    skipBlanks (gap.val ++ rest) = skipBlanks rest :=
  List.dropWhile_append_of_pos gap.property

theorem Blanks.skipBlanks_eq_nil (gap : Blanks) : skipBlanks gap.val = [] := by
  rw [← List.append_nil gap.val, gap.skipBlanks_append]
  rfl

theorem skipBlanks_cons {char : Char} (notBlank : isBlank char = false) (rest : List Char) :
    skipBlanks (char :: rest) = char :: rest := by
  rw [skipBlanks, List.dropWhile_cons_of_neg]
  rw [notBlank]
  decide

/-! ### Values -/

/-- What may stand behind a value in an object: a blank, a comma, or the end of the object. -/
def endsValue (char : Char) : Bool :=
  isBlank char || char = ',' || char = '\x7d'

/-- A text spells a value: it opens with no blank, and the reader takes it for the value where
something follows that may stand behind one. -/
structure Spells (chars : List Char) (value : Json) : Prop where
  opens : ∃ char rest, chars = char :: rest ∧ isBlank char = false
  reads : ∀ (fuel depth : Nat) (char : Char) (rest : List Char), endsValue char = true →
    readValue? (fuel + 1) depth (chars ++ char :: rest) = some (value, char :: rest)

theorem stopsNumber_cons {char : Char} (ends : endsValue char = true) (rest : List Char) :
    StopsNumber (char :: rest) := by
  simp only [endsValue, isBlank, Bool.or_eq_true, decide_eq_true_eq] at ends
  rintro _ ⟨⟩
  rcases ends with ((((rfl | rfl) | rfl) | rfl) | rfl) | rfl <;> decide

theorem readValue?_of_isNumeral {char : Char} (opens : char.isDigit = true ∨ char = '-')
    (fuel depth : Nat) (rest : List Char) :
    readValue? (fuel + 1) depth (char :: rest) = readNumber? (char :: rest) := by
  have differs : ∀ other : Char, other.isDigit = false → other ≠ '-' → char ≠ other := by
    rintro other noDigit noHyphen rfl
    rcases opens with digit | hyphen
    · exact absurd (digit.symm.trans noDigit) (by decide)
    · exact noHyphen hyphen
  unfold readValue?
  split
  all_goals first
    | rfl
    | exact absurd (List.cons.inj ‹_›).1 (differs _ (by decide) (by decide))
    | exact nomatch ‹char :: rest = []›

theorem spells_integer (word : Int64) :
    Spells (toString word.toInt).toList (.integer word.toInt) := by
  obtain ⟨char, rest, text, opens⟩ := Text.exists_toList_toString_eq_cons word.toInt
  refine ⟨⟨char, rest, text, ?_⟩, fun fuel depth next behind ends => ?_⟩
  · rw [isBlank]
    rcases opens with digit | rfl
    · simp only [Bool.or_eq_false_iff, decide_eq_false_iff_not]
      refine ⟨⟨⟨?_, ?_⟩, ?_⟩, ?_⟩ <;> rintro rfl <;> exact absurd digit (by decide)
    · decide
  · have read := readNumber?_toString_append word (stopsNumber_cons ends behind)
    rw [text, List.cons_append] at read ⊢
    rw [readValue?_of_isNumeral opens, read]

theorem spells_text (text : String) : Spells (printText text) (.text text) := by
  refine ⟨⟨'"', _, rfl, by decide⟩, fun fuel depth next behind _ => ?_⟩
  rw [printText, List.cons_append, List.cons_append, List.append_assoc, readValue?,
    List.singleton_append, readText?_flatMap_escapeChar_append]
  simp only [Option.map_some, String.ofList_toList]

theorem spells_boolean (value : Bool) : Spells (toString value).toList (.boolean value) := by
  cases value with
  | true => exact ⟨⟨'t', _, rfl, by decide⟩, fun _ _ _ _ _ => rfl⟩
  | false => exact ⟨⟨'f', _, rfl, by decide⟩, fun _ _ _ _ _ => rfl⟩

/-- A text spells one value at most. -/
theorem Spells.unique {chars : List Char} {value other : Json} (spells : Spells chars value)
    (again : Spells chars other) : value = other := by
  have read := (spells.reads 0 0 ',' [] rfl).symm.trans (again.reads 0 0 ',' [] rfl)
  exact congrArg Prod.fst (Option.some.inj read)

/-! ### Members -/

/-- A member as it is written: its name and the text of its value, and the blanks in front of the
name, on both sides of the colon, and behind the value. -/
structure Member where
  name : String
  value : Json
  chars : List Char
  spells : Spells chars value
  lead : Blanks
  beforeColon : Blanks
  behindColon : Blanks
  trail : Blanks

namespace Member

/-- The text of a member behind the blanks in front of it. -/
def text (member : Member) : List Char :=
  printText member.name ++ member.beforeColon.val ++ ':' :: member.behindColon.val ++
    member.chars ++ member.trail.val

/-- What a member is read as. -/
def entry (member : Member) : String × Json :=
  (member.name, member.value)

end Member

/-- Members parted by commas, up to the brace that ends the object. -/
def membersText (first : Member) : List Member → List Char
  | [] => first.lead.val ++ first.text ++ ['\x7d']
  | second :: further => first.lead.val ++ first.text ++ ',' :: membersText second further

/-- An object with blanks around it. -/
def document (front : Blanks) (first : Member) (further : List Member) (back : Blanks) : String :=
  String.ofList (front.val ++ '\x7b' :: membersText first further ++ back.val)

theorem length_lt_length_membersText (first : Member) (further : List Member) :
    further.length < (membersText first further).length := by
  induction further generalizing first with
  | nil =>
    rw [membersText, List.length_append]
    exact Nat.succ_pos _
  | cons second further inductionHypothesis =>
    have shorter := inductionHypothesis second
    rw [membersText, List.length_append, List.length_cons, List.length_cons]
    omega

/-- A value is read up to the mark behind its blanks. -/
theorem Spells.reads_trail {chars : List Char} {value : Json} (spells : Spells chars value)
    (trail : Blanks) {mark : Char} (ends : endsValue mark = true) (fuel depth : Nat)
    (rest : List Char) :
    readValue? (fuel + 1) depth (chars ++ (trail.val ++ mark :: rest)) =
      some (value, trail.val ++ mark :: rest) := by
  obtain ⟨trail, blank⟩ := trail
  cases trail with
  | nil => exact spells.reads fuel depth mark rest ends
  | cons char trail =>
    refine spells.reads fuel depth char (trail ++ mark :: rest) ?_
    rw [endsValue, blank char List.mem_cons_self]
    rfl

/-! ### Reading members -/

theorem putMember_of_forall_ne {members : List (String × Json)} {name : String}
    (fresh : ∀ member ∈ members, member.1 ≠ name) (value : Json) :
    putMember name value members = members ++ [(name, value)] := by
  have kept : members.filter (·.1 ≠ name) = members :=
    List.filter_eq_self.mpr fun member among => decide_eq_true (fresh member among)
  rw [putMember, kept]

/-- A member is read up to the mark behind it, which decides how it goes on. -/
theorem readMembers?_text_append (member : Member) {members : List (String × Json)}
    (fresh : ∀ other ∈ members, other.1 ≠ member.name) (fuel depth : Nat) {mark : Char}
    (notBlank : isBlank mark = false) (ends : endsValue mark = true) (rest : List Char) :
    readMembers? (fuel + 2) depth members (member.text ++ mark :: rest) =
      match mark :: rest with
      | '\x7d' :: rest => some (members ++ [member.entry], rest)
      | ',' :: rest =>
        readMembers? (fuel + 1) depth (members ++ [member.entry]) (skipBlanks rest)
      | _ => none := by
  obtain ⟨char, chars, opens, charNotBlank⟩ := member.spells.opens
  have colon (more : List Char) :
      skipBlanks (member.beforeColon.val ++ ':' :: more) = ':' :: more := by
    rw [Blanks.skipBlanks_append, skipBlanks_cons (by decide)]
  have value (more : List Char) :
      skipBlanks (member.behindColon.val ++ (member.chars ++ more)) = member.chars ++ more := by
    rw [Blanks.skipBlanks_append, opens, List.cons_append, skipBlanks_cons charNotBlank]
  have behind : skipBlanks (member.trail.val ++ mark :: rest) = mark :: rest := by
    rw [Blanks.skipBlanks_append, skipBlanks_cons notBlank]
  simp only [Member.text, printText, List.cons_append, List.append_assoc, List.nil_append]
  rw [readMembers?]
  simp only [readText?_flatMap_escapeChar_append, colon, value, behind,
    member.spells.reads_trail member.trail ends, String.ofList_toList,
    putMember_of_forall_ne fresh]
  rfl

theorem skipBlanks_lead_append (member : Member) (rest : List Char) :
    skipBlanks (member.lead.val ++ (member.text ++ rest)) = member.text ++ rest := by
  simp only [Member.text, printText, List.cons_append]
  rw [Blanks.skipBlanks_append, skipBlanks_cons (by decide)]

/-- The members of an object are read in their order, behind those that have been read. -/
theorem readMembers?_membersText {first : Member} {further : List Member}
    {members : List (String × Json)}
    (distinct : (members ++ (first :: further).map Member.entry).Pairwise (·.1 ≠ ·.1))
    {fuel : Nat} (enough : further.length + 2 ≤ fuel) (depth : Nat) (rest : List Char) :
    readMembers? fuel depth members (skipBlanks (membersText first further ++ rest)) =
      some (members ++ (first :: further).map Member.entry, rest) := by
  induction further generalizing first members fuel with
  | nil =>
    obtain ⟨fuel, rfl⟩ : ∃ less, fuel = less + 2 := ⟨fuel - 2, (Nat.sub_add_cancel enough).symm⟩
    have fresh := fun other among =>
      (List.pairwise_append.mp distinct).2.2 other among first.entry List.mem_cons_self
    rw [membersText, List.append_assoc, List.append_assoc, skipBlanks_lead_append,
      List.singleton_append, readMembers?_text_append first fresh fuel depth rfl rfl]
    rfl
  | cons second further inductionHypothesis =>
    rw [List.length_cons] at enough
    obtain ⟨fuel, rfl⟩ : ∃ less, fuel = less + 2 := ⟨fuel - 2, by omega⟩
    have fresh := fun other among =>
      (List.pairwise_append.mp distinct).2.2 other among first.entry List.mem_cons_self
    rw [List.map_cons, List.append_cons] at distinct ⊢
    rw [membersText, List.append_assoc, List.append_assoc, skipBlanks_lead_append,
      List.cons_append, readMembers?_text_append first fresh fuel depth rfl rfl]
    exact inductionHypothesis distinct (by omega)

/-! ### Reading objects -/

/-- An object is read as its members, whatever its layout. -/
theorem read?_document (front back : Blanks) {first : Member} {further : List Member}
    (distinct : ((first :: further).map Member.entry).Pairwise (·.1 ≠ ·.1)) :
    read? (document front first further back) =
      some (.object ((first :: further).map Member.entry)) := by
  have opened : skipBlanks (document front first further back).toList =
      '\x7b' :: (membersText first further ++ back.val) := by
    rw [document, String.toList_ofList, List.append_assoc, List.cons_append,
      Blanks.skipBlanks_append, skipBlanks_cons (by decide)]
  have enough : further.length + 2 ≤ 2 * (membersText first further ++ back.val).length + 3 := by
    have shorter := length_lt_length_membersText first further
    rw [List.length_append]
    omega
  have members : readMembers? (2 * (membersText first further ++ back.val).length + 3) 126 []
      (skipBlanks (membersText first further ++ back.val)) =
      some ((first :: further).map Member.entry, back.val) :=
    readMembers?_membersText distinct enough 126 back.val
  have noEnd : ∀ rest, skipBlanks (membersText first further ++ back.val) ≠ '\x7d' :: rest := by
    intro rest ended
    rw [ended] at members
    cases members
  have value : readValue? (2 * (membersText first further ++ back.val).length + 3 + 1) (126 + 1)
      ('\x7b' :: (membersText first further ++ back.val)) =
      some (.object ((first :: further).map Member.entry), back.val) := by
    rw [readValue?]
    split
    · next rest ended => exact absurd ended (noEnd rest)
    · rw [members]
      rfl
  have length : 2 * ('\x7b' :: (membersText first further ++ back.val)).length + 2 =
      2 * (membersText first further ++ back.val).length + 3 + 1 := by
    rw [List.length_cons]
    omega
  simp only [read?, opened, length, depthLimit]
  rw [value]
  simp only [back.skipBlanks_eq_nil, List.isEmpty_nil, if_true]

end SqlLedger.Json
