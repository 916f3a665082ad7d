/-
A comment envelope is read back from wherever its parts stand in the comment.

The three values are looked for one after the other, each from the front of the whole comment, so
nothing in the reader says that a value found belongs to the marker that was meant: a marker could
end in the text before it, or stand in the value of another. What rules this out is the colon. A
marker is a word with a colon behind it; base64 has no colon, and the text around the parts is
assumed to have none. So the comment falls into pieces at its colons, and a marker stands only
where the piece before a colon ends in its word (`locate?_append_colon`). As the words end in
different letters, that is its own place, whatever text stands before it
(`CommentField.word_suffix_iff`). A part without octets has an empty value, which the reader does
not take for one: it goes on and finds nothing, and the part is read as absent, which is the same.
-/

import SqlLedger.Statement.Basic
import SqlLedger.Proofs.Base64

namespace SqlLedger

namespace CommentField

/-- All parts of an envelope. -/
def all : List CommentField :=
  [signature, transaction, publicKey]

theorem mem_all (field : CommentField) : field ∈ all := by
  cases field <;> decide

/-- The word that a part is announced by. -/
def word : CommentField → String
  | signature => "SIGN"
  | transaction => "DATA"
  | publicKey => "PUBKEY"

/-- A marker is its word with a colon behind. -/
theorem toList_marker (field : CommentField) :
    field.marker.toList = field.word.toList ++ [':'] := by
  cases field <;> rfl

theorem colon_notMem_word (field : CommentField) : ':' ∉ field.word.toList := by
  cases field <;> decide

/-- The words end in different letters, so that none of them ends in another one's place. -/
theorem word_suffix_iff (before : List Char) (first second : CommentField) :
    first.word.toList <:+ before ++ second.word.toList ↔ first = second := by
  constructor
  · rintro ⟨front, same⟩
    have letters := congrArg List.getLast? same
    cases first <;> cases second <;> simp [word, List.getLast?_append] at letters ⊢
  · rintro rfl
    exact List.suffix_append before first.word.toList

end CommentField

namespace CommentEnvelope

/-! ### Finding the value of a marker -/

/-- A text up to its first colon is the front of another text only if that one is the same up to
its own first colon. -/
theorem append_colon_prefix_iff {first second : List Char} (rest : List Char)
    (firstFree : ':' ∉ first) (secondFree : ':' ∉ second) :
    first ++ [':'] <+: second ++ ':' :: rest ↔ first = second := by
  constructor
  · intro front
    induction first generalizing second with
    | nil =>
      cases second with
      | nil => rfl
      | cons head tail =>
        have same : ':' = head := (List.cons_prefix_cons.mp front).1
        exact absurd (same ▸ List.mem_cons_self) secondFree
    | cons char first inductionHypothesis =>
      cases second with
      | nil =>
        have same : char = ':' := (List.cons_prefix_cons.mp front).1
        exact absurd (same ▸ List.mem_cons_self) firstFree
      | cons head tail =>
        obtain ⟨same, fronts⟩ := List.cons_prefix_cons.mp front
        rw [same, inductionHypothesis (fun member => firstFree (List.mem_cons_of_mem _ member))
          (fun member => secondFree (List.mem_cons_of_mem _ member)) fronts]
  · rintro rfl
    exact ⟨rest, by rw [List.append_assoc, List.singleton_append]⟩

/-- Where there is no colon there is no marker. -/
theorem locate?_of_colon_notMem (word : List Char) {chars : List Char} (free : ':' ∉ chars) :
    locate? (word ++ [':']) chars = none := by
  induction chars with
  | nil => rfl
  | cons char chars inductionHypothesis =>
    have absent : ¬ (word ++ [':']).isPrefixOf (char :: chars) = true := by
      rw [List.isPrefixOf_iff_prefix]
      exact fun front => free (front.subset (List.mem_append_right word List.mem_cons_self))
    rw [locate?, valueAfter?, if_neg absent]
    exact inductionHypothesis (fun member => free (List.mem_cons_of_mem char member))

theorem locate?_cons (marker : List Char) (char : Char) (rest : List Char) :
    locate? marker (char :: rest) =
      (valueAfter? marker (char :: rest)).or (locate? marker rest) := by
  rw [locate?]
  cases valueAfter? marker (char :: rest) <;> rfl

theorem valueAfter?_append_colon {word before : List Char} (after : List Char)
    (wordFree : ':' ∉ word) (beforeFree : ':' ∉ before) :
    valueAfter? (word ++ [':']) (before ++ ':' :: after) =
      if word = before then valueAtFront? after else none := by
  simp only [valueAfter?, List.isPrefixOf_iff_prefix,
    append_colon_prefix_iff after wordFree beforeFree]
  by_cases same : word = before
  · have split : before ++ ':' :: after = (word ++ [':']) ++ after := by
      rw [same, List.append_assoc, List.singleton_append]
    rw [if_pos same, if_pos same, split, List.drop_left]
  · rw [if_neg same, if_neg same]

/-- The value of a marker is the one behind the first colon, if its word stands in front of that
colon and a value behind; otherwise it is looked for behind the colon. -/
theorem locate?_append_colon {word before : List Char} (after : List Char)
    (wordFree : ':' ∉ word) (beforeFree : ':' ∉ before) :
    locate? (word ++ [':']) (before ++ ':' :: after) =
      (if word <:+ before then valueAtFront? after else none).or
        (locate? (word ++ [':']) after) := by
  induction before with
  | nil =>
    have here := valueAfter?_append_colon after wordFree beforeFree
    rw [List.nil_append] at here ⊢
    simp only [locate?_cons, here, List.suffix_nil]
  | cons char before inductionHypothesis =>
    have here := valueAfter?_append_colon after wordFree beforeFree
    have later := inductionHypothesis (fun member => beforeFree (List.mem_cons_of_mem char member))
    rw [List.cons_append] at here ⊢
    rw [locate?_cons, here, later]
    simp only [List.suffix_cons_iff]
    by_cases same : word = char :: before
    · -- The word has no room in what follows, but a second look would find the same value.
      simp only [same, true_or, if_true]
      cases valueAtFront? after <;> simp
    · simp only [same, false_or, if_false, Option.none_or]

/-- A value without a semicolon is read up to the semicolon behind it, unless it is empty. -/
theorem valueAtFront?_append_semicolon {value : List Char} (after : List Char)
    (free : ';' ∉ value) :
    valueAtFront? (value ++ ';' :: after) = if value = [] then none else some value := by
  have differs : ∀ char ∈ value, decide (char ≠ ';') = true :=
    fun char member => decide_eq_true fun same => free (same ▸ member)
  have upTo : (value ++ ';' :: after).takeWhile (· ≠ ';') = value := by
    rw [List.takeWhile_append_of_pos differs, List.takeWhile_cons_of_neg (by decide),
      List.append_nil]
  have shorter : value.length ≠ (value ++ ';' :: after).length := by
    rw [List.length_append, List.length_cons]
    omega
  simp only [valueAtFront?, upTo, List.isEmpty_iff, shorter, or_false]

/-! ### Comments that carry an envelope -/

/-- The octets of a part. -/
def part (envelope : CommentEnvelope) : CommentField → Bytes
  | .signature => envelope.signature
  | .transaction => envelope.transaction
  | .publicKey => envelope.publicKey

/-- A part as it stands in a comment. -/
def segment (envelope : CommentEnvelope) (field : CommentField) : String :=
  field.word ++ ":" ++ Base64.text (envelope.part field) ++ ";"

/-- A comment with parts of an envelope in some order, each behind some text of its own, and with
some text at the end. -/
def comment (envelope : CommentEnvelope) (last : String) : List (String × CommentField) → String
  | [] => last
  | (before, field) :: parts => before ++ envelope.segment field ++ envelope.comment last parts

/-- The value that the reader takes from a part; it takes none from an empty part. -/
def value? (envelope : CommentEnvelope) (field : CommentField) : Option (List Char) :=
  if (Base64.text (envelope.part field)).toList = [] then none
  else some (Base64.text (envelope.part field)).toList

theorem toList_comment_cons (envelope : CommentEnvelope) (last before : String)
    (field : CommentField) (parts : List (String × CommentField)) :
    (envelope.comment last ((before, field) :: parts)).toList =
      (before.toList ++ field.word.toList) ++ ':' :: ((Base64.text (envelope.part field)).toList ++
        ';' :: (envelope.comment last parts).toList) := by
  simp only [comment, segment, String.toList_append, List.append_assoc]
  rfl

/-- The value of a marker in a comment is that of its part, if the part is there. What stands
before the comment, such as the value of an earlier part, makes no difference. -/
theorem locate?_comment (envelope : CommentEnvelope) (field : CommentField) {last : String}
    {parts : List (String × CommentField)} {lead : List Char}
    (betweenFree : ∀ part ∈ parts, ':' ∉ part.1.toList) (lastFree : ':' ∉ last.toList)
    (leadFree : ':' ∉ lead) :
    locate? field.marker.toList (lead ++ (envelope.comment last parts).toList) =
      if field ∈ parts.map Prod.snd then envelope.value? field else none := by
  rw [CommentField.toList_marker]
  induction parts generalizing lead with
  | nil =>
    rw [comment, locate?_of_colon_notMem]
    · rfl
    · rw [List.mem_append]
      exact not_or.mpr ⟨leadFree, lastFree⟩
  | cons head parts inductionHypothesis =>
    obtain ⟨before, announced⟩ := head
    obtain ⟨beforeFree, othersFree⟩ := List.forall_mem_cons.mp betweenFree
    have pieceFree : ':' ∉ lead ++ before.toList ++ announced.word.toList := by
      simp only [List.mem_append, not_or]
      exact ⟨⟨leadFree, beforeFree⟩, announced.colon_notMem_word⟩
    have valueFree : ':' ∉ (Base64.text (envelope.part announced)).toList ++ [';'] := by
      rw [List.mem_append, not_or]
      exact ⟨Base64.colon_notMem_text _, by decide⟩
    have later := inductionHypothesis othersFree valueFree
    rw [List.append_assoc, List.singleton_append] at later
    rw [toList_comment_cons, ← List.append_assoc, ← List.append_assoc,
      locate?_append_colon _ field.colon_notMem_word pieceFree, later,
      valueAtFront?_append_semicolon _ (Base64.semicolon_notMem_text _)]
    simp only [CommentField.word_suffix_iff, List.map_cons, List.mem_cons]
    by_cases same : field = announced
    · -- An empty part has no value here, and none in the parts that follow.
      subst same
      simp only [if_true, true_or]
      show (envelope.value? field).or _ = envelope.value? field
      cases envelope.value? field with
      | none => rw [Option.none_or, ite_self]
      | some value => rfl
    · simp only [same, if_false, false_or, Option.none_or]

/-- A part that stands in a comment is read back. -/
theorem readField_comment (envelope : CommentEnvelope) {field : CommentField} {last : String}
    {parts : List (String × CommentField)} (there : field ∈ parts.map Prod.snd)
    (betweenFree : ∀ part ∈ parts, ':' ∉ part.1.toList) (lastFree : ':' ∉ last.toList) :
    readField (envelope.comment last parts) field = .ok (envelope.part field) := by
  have found := envelope.locate?_comment field betweenFree lastFree List.not_mem_nil
  rw [List.nil_append, if_pos there] at found
  rw [readField, found, value?]
  by_cases absent : (Base64.text (envelope.part field)).toList = []
  · rw [if_pos absent, (Base64.toList_text_eq_nil_iff _).mp absent]
  · rw [if_neg absent]
    simp only [Base64.encodeChars_text, Base64.decode_encode]

/-- An envelope is read when each of its parts is. -/
theorem read_of_parts {comment : String} {envelope : CommentEnvelope}
    (parts : ∀ field, readField comment field = .ok (envelope.part field)) :
    read comment = .ok envelope := by
  rw [read, parts .signature, parts .transaction, parts .publicKey]
  rfl

end CommentEnvelope

namespace Statement

/-- An envelope whose parts stand in the first comment of a statement, in any order and between
texts without a colon, is read back from it, whatever further comments there are. -/
theorem readEnvelope_comment (statement : Statement) (envelope : CommentEnvelope)
    (parts : List (String × CommentField)) (last : String) (further : List String)
    (order : (parts.map Prod.snd).Perm CommentField.all)
    (betweenFree : ∀ part ∈ parts, ':' ∉ part.1.toList) (lastFree : ':' ∉ last.toList)
    (comments : statement.outline.comments = envelope.comment last parts :: further) :
    statement.readEnvelope = .ok envelope := by
  rw [readEnvelope, comments, CommentEnvelope.ofComments]
  exact CommentEnvelope.read_of_parts fun field =>
    envelope.readField_comment (order.mem_iff.mpr field.mem_all) betweenFree lastFree

/-- Words of markers and semicolons may stand in the texts between the parts, and a part may be
empty. -/
theorem readEnvelope_comment_scattered :
    let envelope : CommentEnvelope :=
      { publicKey := [0xFF, 0xFE], signature := [], transaction := [1, 2, 3] }
    let parts : List (String × CommentField) :=
      [("; SIGN\né ", .publicKey), ("SIGN", .transaction), (";PUB", .signature)]
    let outline : StatementOutline :=
      { kind := .insert, table := "notes"
        comments := ["; SIGN\né PUBKEY://4=;SIGNDATA:AQID;;PUBSIGN:;KEY ☃;", "SIGN:AA==;"] }
    (parts.map Prod.snd).Perm CommentField.all ∧
      (∀ part ∈ parts, ':' ∉ part.1.toList) ∧ ':' ∉ "KEY ☃;".toList ∧
      outline.comments = envelope.comment "KEY ☃;" parts :: ["SIGN:AA==;"] ∧
      ({ outline, sql := "" } : Statement).readEnvelope = .ok envelope := by
  intro envelope parts outline
  have order : (parts.map Prod.snd).Perm CommentField.all := by
    decide
  have betweenFree : ∀ part ∈ parts, ':' ∉ part.1.toList := by
    decide
  have lastFree : ':' ∉ "KEY ☃;".toList := by
    decide
  have comments : outline.comments = envelope.comment "KEY ☃;" parts :: ["SIGN:AA==;"] := by
    decide +kernel
  exact ⟨order, betweenFree, lastFree, comments,
    readEnvelope_comment { outline, sql := "" } envelope parts "KEY ☃;" ["SIGN:AA==;"] order
      betweenFree lastFree comments⟩

end Statement

end SqlLedger
