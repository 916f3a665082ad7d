/-
The value of a marker is the leftmost proper one.

The reader walks along the comment and tries one place after the other. What it finds is said here
without the walk: a marker has a value at a position of a text if it stands there with one or more
characters other than a semicolon behind it, and then a semicolon (`HasValueAt`), and the value that
counts is the one at the least such position (`FirstValue`). The two agree on every text
(`locate?_eq_some_iff`, `locate?_eq_none_iff`), by an induction in which the first place of the text
is position zero and all others move by one.

What lies far apart in a comment cannot disturb a value because of the semicolons. No marker and no
value holds one, so that a place before a semicolon is judged by the text up to that semicolon, and
a search that has found nothing so far starts afresh behind it (`locate?_append_semicolon`). An
occurrence with an empty value is skipped in this way, and the text behind a value is never looked
at.
-/

import Mathlib
import SqlLedger.Proofs.Statement.Comment

namespace SqlLedger

namespace CommentField

theorem marker_ne_nil (field : CommentField) : field.marker.toList ≠ [] := by
  cases field <;> decide

theorem semicolon_notMem_marker (field : CommentField) : ';' ∉ field.marker.toList := by
  cases field <;> decide

end CommentField

namespace CommentEnvelope

/-! ### Values at positions -/

/-- A marker has a value at a position of a text: it stands there, behind it the value, which is
not empty, and behind the value the first semicolon. -/
def HasValueAt (marker chars : List Char) (position : Nat) (value : List Char) : Prop :=
  ∃ before after, chars = before ++ marker ++ value ++ ';' :: after ∧
    before.length = position ∧ value ≠ [] ∧ ';' ∉ value

/-- The value of a marker at the least position of a text where it has one. -/
def FirstValue (marker chars value : List Char) : Prop :=
  ∃ position, HasValueAt marker chars position value ∧
    ∀ earlier < position, ∀ other, ¬ HasValueAt marker chars earlier other

variable {marker chars value : List Char} {position : Nat}

theorem hasValueAt_append (before after : List Char) (nonempty : value ≠ [])
    (free : ';' ∉ value) :
    HasValueAt marker (before ++ marker ++ value ++ ';' :: after) before.length value :=
  ⟨before, after, rfl, rfl, nonempty, free⟩

theorem not_hasValueAt_nil : ¬ HasValueAt marker [] position value := by
  rintro ⟨before, after, same, -⟩
  exact List.append_ne_nil_of_right_ne_nil _ (List.cons_ne_nil ';' after) same.symm

/-- Behind its first character a text has the same values, one position earlier. -/
theorem hasValueAt_cons_succ_iff (char : Char) :
    HasValueAt marker (char :: chars) (position + 1) value ↔
      HasValueAt marker chars position value := by
  constructor
  · rintro ⟨before, after, same, length, proper⟩
    cases before with
    | nil => cases length
    | cons head before =>
      simp only [List.cons_append] at same
      exact ⟨before, after, (List.cons.inj same).2, Nat.succ.inj length, proper⟩
  · rintro ⟨before, after, rfl, rfl, proper⟩
    exact ⟨char :: before, after, rfl, rfl, proper⟩

/-- The first value of a text is the one at its front or else the first one behind its first
character. -/
theorem firstValue_cons_iff (char : Char) :
    FirstValue marker (char :: chars) value ↔
      HasValueAt marker (char :: chars) 0 value ∨
        (∀ other, ¬ HasValueAt marker (char :: chars) 0 other) ∧
          FirstValue marker chars value := by
  constructor
  · rintro ⟨position, here, noneEarlier⟩
    cases position with
    | zero => exact Or.inl here
    | succ position =>
      refine Or.inr ⟨noneEarlier 0 (Nat.succ_pos position), position,
        (hasValueAt_cons_succ_iff char).mp here, fun earlier before other found => ?_⟩
      exact noneEarlier (earlier + 1) (Nat.succ_lt_succ before) other
        ((hasValueAt_cons_succ_iff char).mpr found)
  · rintro (here | ⟨noneHere, position, there, noneEarlier⟩)
    · exact ⟨0, here, nofun⟩
    · refine ⟨position + 1, (hasValueAt_cons_succ_iff char).mpr there,
        fun earlier before other found => ?_⟩
      cases earlier with
      | zero => exact noneHere other found
      | succ earlier =>
        exact noneEarlier earlier (Nat.lt_of_succ_lt_succ before) other
          ((hasValueAt_cons_succ_iff char).mp found)

/-! ### The search -/

/-- What is read at the front of a text is a proper value with a semicolon behind it. -/
theorem valueAtFront?_eq_some_iff :
    valueAtFront? chars = some value ↔
      (value ≠ [] ∧ ';' ∉ value) ∧ ∃ after, chars = value ++ ';' :: after := by
  constructor
  · intro found
    simp only [valueAtFront?] at found
    split at found
    · cases found
    · rename_i proper
      cases found
      simp only [List.isEmpty_iff, not_or] at proper
      have free : ';' ∉ chars.takeWhile (· ≠ ';') := fun member =>
        of_decide_eq_true (List.all_eq_true.mp List.all_takeWhile ';' member) rfl
      refine ⟨⟨proper.1, free⟩, ?_⟩
      have split := List.takeWhile_append_dropWhile (p := (· ≠ ';')) (l := chars)
      cases rest : chars.dropWhile (· ≠ ';') with
      | nil =>
        rw [rest, List.append_nil] at split
        exact absurd (congrArg List.length split) proper.2
      | cons head after =>
        have stop := List.head?_dropWhile_not (· ≠ ';') chars
        rw [rest] at stop split
        have semicolon : head = ';' := by simpa using stop
        subst semicolon
        exact ⟨after, split.symm⟩
  · rintro ⟨⟨nonempty, free⟩, after, rfl⟩
    rw [valueAtFront?_append_semicolon after free, if_neg nonempty]

theorem valueAfter?_eq_some_iff :
    valueAfter? marker chars = some value ↔ HasValueAt marker chars 0 value := by
  rw [valueAfter?]
  constructor
  · intro found
    split at found
    · rename_i stands
      obtain ⟨rest, rfl⟩ := List.isPrefixOf_iff_prefix.mp stands
      rw [List.drop_left] at found
      obtain ⟨proper, after, rfl⟩ := valueAtFront?_eq_some_iff.mp found
      exact ⟨[], after, by simp only [List.nil_append, List.append_assoc], rfl, proper⟩
    · cases found
  · rintro ⟨before, after, rfl, length, proper⟩
    obtain rfl := List.length_eq_zero_iff.mp length
    rw [List.nil_append, List.append_assoc,
      if_pos (List.isPrefixOf_iff_prefix.mpr (List.prefix_append marker _)), List.drop_left]
    exact valueAtFront?_eq_some_iff.mpr ⟨proper, after, rfl⟩

theorem valueAfter?_eq_none_iff :
    valueAfter? marker chars = none ↔ ∀ value, ¬ HasValueAt marker chars 0 value := by
  simp only [Option.eq_none_iff_forall_ne_some, ne_eq, valueAfter?_eq_some_iff]

/-- The search finds the first value. -/
theorem locate?_eq_some_iff :
    locate? marker chars = some value ↔ FirstValue marker chars value := by
  induction chars with
  | nil => exact ⟨nofun, fun ⟨_, here, _⟩ => absurd here not_hasValueAt_nil⟩
  | cons char chars inductionHypothesis =>
    rw [locate?_cons, Option.or_eq_some_iff, valueAfter?_eq_some_iff, valueAfter?_eq_none_iff,
      inductionHypothesis, firstValue_cons_iff]

/-- The search finds nothing only where there is no value at any position. -/
theorem locate?_eq_none_iff :
    locate? marker chars = none ↔ ∀ position value, ¬ HasValueAt marker chars position value := by
  induction chars with
  | nil => exact ⟨fun _ _ _ => not_hasValueAt_nil, fun _ => rfl⟩
  | cons char chars inductionHypothesis =>
    rw [locate?_cons, Option.or_eq_none_iff, valueAfter?_eq_none_iff, inductionHypothesis]
    constructor
    · rintro ⟨noneHere, noneLater⟩ (_ | position) value found
      · exact noneHere value found
      · exact noneLater position value ((hasValueAt_cons_succ_iff char).mp found)
    · exact fun absent => ⟨absent 0, fun position value found =>
        absent (position + 1) value ((hasValueAt_cons_succ_iff char).mpr found)⟩

/-! ### Up to a semicolon -/

/-- A text without a semicolon stands in front of another one only before its semicolons. -/
theorem prefix_append_semicolon_iff (free : ';' ∉ marker) (after : List Char) :
    marker <+: chars ++ ';' :: after ↔ marker <+: chars := by
  constructor
  · intro front
    rcases List.prefix_or_prefix_of_prefix front (List.prefix_append chars _) with short | long
    · exact short
    · obtain ⟨rest, rfl⟩ := long
      cases rest with
      | nil => simpa only [List.append_nil] using List.prefix_refl chars
      | cons head rest =>
        rw [List.prefix_append_right_inj] at front
        obtain rfl := (List.cons_prefix_cons.mp front).1
        exact absurd (List.mem_append_right chars List.mem_cons_self) free
  · exact fun front => front.trans (List.prefix_append chars _)

theorem valueAtFront?_congr_of_semicolon (chars after other : List Char) :
    valueAtFront? (chars ++ ';' :: after) = valueAtFront? (chars ++ ';' :: other) := by
  have upTo : ∀ rest : List Char,
      (chars ++ ';' :: rest).takeWhile (· ≠ ';') = chars.takeWhile (· ≠ ';') := by
    intro rest
    induction chars with
    | nil => rfl
    | cons char chars inductionHypothesis =>
      rw [List.cons_append, List.takeWhile_cons, List.takeWhile_cons, inductionHypothesis]
  have shorter : ∀ rest : List Char,
      (chars.takeWhile (· ≠ ';')).length ≠ (chars ++ ';' :: rest).length := by
    intro rest
    have bounded := (List.takeWhile_prefix (p := (· ≠ ';')) (l := chars)).length_le
    rw [List.length_append, List.length_cons]
    omega
  simp only [valueAtFront?, upTo, shorter, or_false]

/-- Whether a marker has a value at the front is settled by the text up to any semicolon. -/
theorem valueAfter?_congr_of_semicolon (free : ';' ∉ marker) (chars after other : List Char) :
    valueAfter? marker (chars ++ ';' :: after) = valueAfter? marker (chars ++ ';' :: other) := by
  simp only [valueAfter?, List.isPrefixOf_iff_prefix, prefix_append_semicolon_iff free]
  by_cases stands : marker <+: chars
  · obtain ⟨rest, rfl⟩ := stands
    simp only [List.append_assoc, List.drop_left]
    rw [valueAtFront?_congr_of_semicolon rest after other]
  · rw [if_neg stands, if_neg stands]

/-- A value is looked for up to a semicolon, and then afresh behind it. -/
theorem locate?_append_semicolon (present : marker ≠ []) (free : ';' ∉ marker)
    (chars after : List Char) :
    locate? marker (chars ++ ';' :: after) =
      (locate? marker (chars ++ [';'])).or (locate? marker after) := by
  induction chars with
  | nil =>
    have absent : ∀ rest : List Char, valueAfter? marker (';' :: rest) = none := by
      intro rest
      have front := @prefix_append_semicolon_iff marker [] free rest
      rw [List.nil_append, List.prefix_nil] at front
      exact if_neg fun stands => present (front.mp (List.isPrefixOf_iff_prefix.mp stands))
    simp only [List.nil_append, locate?_cons, absent, Option.none_or]
    rfl
  | cons char chars inductionHypothesis =>
    have here := valueAfter?_congr_of_semicolon free (char :: chars) after []
    simp only [List.cons_append] at here ⊢
    rw [locate?_cons, locate?_cons, here, inductionHypothesis, Option.or_assoc]

/-- A value that is ended by a semicolon keeps what follows the semicolon out of the search. -/
theorem locate?_congr_of_hasValueAt (present : marker ≠ []) (markerFree : ';' ∉ marker)
    (before after other : List Char) (nonempty : value ≠ []) (free : ';' ∉ value) :
    locate? marker (before ++ marker ++ value ++ ';' :: after) =
      locate? marker (before ++ marker ++ value ++ ';' :: other) := by
  have found : locate? marker (before ++ marker ++ value ++ [';']) ≠ none := fun absent =>
    locate?_eq_none_iff.mp absent _ _ (hasValueAt_append before [] nonempty free)
  obtain ⟨first, same⟩ := Option.ne_none_iff_exists'.mp found
  rw [locate?_append_semicolon present markerFree _ after,
    locate?_append_semicolon present markerFree _ other, same, Option.some_or, Option.some_or]

/-- Where no semicolon follows, a marker has no value. -/
theorem not_hasValueAt_of_unterminated (before : List Char) {after : List Char}
    (unterminated : ';' ∉ after) :
    ¬ HasValueAt marker (before ++ marker ++ after) before.length value := by
  rintro ⟨front, rest, same, length, -⟩
  simp only [List.append_assoc] at same
  obtain rfl := List.append_cancel_left (List.append_inj same length.symm).2
  exact unterminated (List.mem_append_right value List.mem_cons_self)

/-! ### The parts of an envelope -/

/-- A marker that ends in the first colon of a text has its value there, whatever letters stand
before it. -/
theorem locate?_marker_of_colon_notMem (field : CommentField) {before : List Char}
    (after : List Char) (beforeFree : ':' ∉ before) (nonempty : value ≠ []) (free : ';' ∉ value) :
    locate? field.marker.toList (before ++ field.marker.toList ++ value ++ ';' :: after) =
      some value := by
  have pieceFree : ':' ∉ before ++ field.word.toList := by
    rw [List.mem_append]
    exact not_or.mpr ⟨beforeFree, field.colon_notMem_word⟩
  rw [CommentField.toList_marker, ← List.append_assoc before, List.append_assoc _ value,
    List.append_assoc _ [':'], List.singleton_append,
    locate?_append_colon _ field.colon_notMem_word pieceFree,
    if_pos (List.suffix_append before field.word.toList),
    valueAtFront?_append_semicolon after free, if_neg nonempty, Option.some_or]

theorem readField_of_locate? {comment : String} {field : CommentField}
    (found : locate? field.marker.toList comment.toList = some value) :
    readField comment field =
      (Base64.decode (Utf8.encodeChars value)).mapError (Fault.mk field) := by
  rw [readField, found]
  dsimp only
  cases Base64.decode (Utf8.encodeChars value) <;> rfl

theorem readField_of_locate?_eq_none {comment : String} {field : CommentField}
    (absent : locate? field.marker.toList comment.toList = none) :
    readField comment field = .ok [] := by
  rw [readField, absent]

/-- A part of an envelope is decoded from the value of its marker at the least position where the
marker has one, and is empty if there is no such position; this value and no other is what the
search hands on. So an occurrence with an empty value is skipped in favour of a later one, one that
no semicolon ends is none, one behind other letters or behind the same marker counts where it
stands, and neither the text behind the semicolon that ends a value nor a later comment changes
anything. -/
theorem leftmost_value_counts (field : CommentField) :
    (∀ (comment : String) (value : List Char),
      FirstValue field.marker.toList comment.toList value →
        readField comment field =
          (Base64.decode (Utf8.encodeChars value)).mapError (Fault.mk field)) ∧
    (∀ comment : String,
      (∀ position value, ¬ HasValueAt field.marker.toList comment.toList position value) →
        readField comment field = .ok []) ∧
    (∀ chars value, locate? field.marker.toList chars = some value ↔
      FirstValue field.marker.toList chars value) ∧
    (∀ chars, locate? field.marker.toList chars = none ↔
      ∀ position value, ¬ HasValueAt field.marker.toList chars position value) ∧
    (∀ before after,
      (∀ position value,
        ¬ HasValueAt field.marker.toList (before ++ field.marker.toList ++ [';']) position value) →
        locate? field.marker.toList (before ++ field.marker.toList ++ ';' :: after) =
          locate? field.marker.toList after) ∧
    (∀ before after value, ';' ∉ after →
      ¬ HasValueAt field.marker.toList (before ++ field.marker.toList ++ after) before.length
        value) ∧
    (∀ before value after, ':' ∉ before → value ≠ [] → ';' ∉ value →
      locate? field.marker.toList (before ++ field.marker.toList ++ value ++ ';' :: after) =
        some value) ∧
    (∀ before value after, ':' ∉ before → ';' ∉ value →
      locate? field.marker.toList
          (before ++ field.marker.toList ++ (field.marker.toList ++ value) ++ ';' :: after) =
        some (field.marker.toList ++ value)) ∧
    (∀ before value after other, value ≠ [] → ';' ∉ value →
      locate? field.marker.toList (before ++ field.marker.toList ++ value ++ ';' :: after) =
        locate? field.marker.toList (before ++ field.marker.toList ++ value ++ ';' :: other)) ∧
    ∀ (statement : Statement) (comment : String) (further : List String),
      ({ statement with outline.comments := comment :: further } : Statement).readEnvelope =
        read comment := by
  refine ⟨?_, ?_, fun _ _ => locate?_eq_some_iff, fun _ => locate?_eq_none_iff, ?_,
    fun before after value unterminated => not_hasValueAt_of_unterminated before unterminated,
    fun before value after => locate?_marker_of_colon_notMem field after, ?_,
    fun before value after other =>
      locate?_congr_of_hasValueAt field.marker_ne_nil field.semicolon_notMem_marker before after
        other,
    fun _ _ _ => rfl⟩
  · intro comment value first
    exact readField_of_locate? (locate?_eq_some_iff.mpr first)
  · intro comment absent
    exact readField_of_locate?_eq_none (locate?_eq_none_iff.mpr absent)
  · intro before after absent
    rw [locate?_append_semicolon field.marker_ne_nil field.semicolon_notMem_marker,
      locate?_eq_none_iff.mpr absent, Option.none_or]
  · intro before value after beforeFree free
    refine locate?_marker_of_colon_notMem field after beforeFree
      (List.append_ne_nil_of_left_ne_nil field.marker_ne_nil value) fun member => ?_
    exact (List.mem_append.mp member).elim field.semicolon_notMem_marker free

/-- An empty value first, then a value behind other letters that begins with the marker once more,
then another value and a marker without an end: the second of these counts, although it is no
base64, and without it there is none. -/
theorem leftmost_value_counts_of_four :
    let comment := "SIGN:;PRESIGN:SIGN:é\n;SIGN:AA==;SIGN:c"
    let marker := CommentField.signature.marker.toList
    locate? marker "SIGN:;".toList = none ∧
      FirstValue marker comment.toList "SIGN:é\n".toList ∧
      (∀ other, FirstValue marker ("PRESIGN:SIGN:é\n;" ++ other).toList "SIGN:é\n".toList) ∧
      readField comment .signature = .error ⟨.signature, .invalidByte 58 4⟩ ∧
      readField "SIGN:;SIGN:c" .signature = .ok [] := by
  intro comment marker
  obtain ⟨decoded, empty, found, absent, skipped, -, -, doubled, -⟩ :=
    leftmost_value_counts .signature
  have emptyValue : locate? marker "SIGN:;".toList = none := by
    decide
  have there : ∀ other, FirstValue marker ("PRESIGN:SIGN:é\n;" ++ other).toList
      "SIGN:é\n".toList := by
    intro other
    have front : "PRESIGN:SIGN:é\n;".toList =
        "PRE".toList ++ marker ++ (marker ++ "é\n".toList) ++ [';'] := by
      decide +kernel
    have value : "SIGN:é\n".toList = marker ++ "é\n".toList := by
      decide +kernel
    rw [String.toList_append, front, value, List.append_assoc, List.singleton_append, ← found]
    exact doubled "PRE".toList "é\n".toList other.toList (by decide) (by decide)
  have first : FirstValue marker comment.toList "SIGN:é\n".toList := by
    have split : comment.toList =
        [] ++ marker ++ ';' :: ("PRESIGN:SIGN:é\n;" ++ "SIGN:AA==;SIGN:c").toList := by
      decide +kernel
    have alone : [] ++ marker ++ [';'] = "SIGN:;".toList := by
      decide
    rw [split, ← found, skipped [] _ ((absent _).mp (alone ▸ emptyValue)), found]
    exact there "SIGN:AA==;SIGN:c"
  refine ⟨emptyValue, first, there, ?_, ?_⟩
  · rw [decoded comment _ first]
    cbv
  · exact empty _ ((absent _).mp (by decide))

end CommentEnvelope

end SqlLedger
