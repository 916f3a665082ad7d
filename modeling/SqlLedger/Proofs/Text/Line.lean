/-
Lines of a text.

A listing is written line by line, and read again by what ends a line. `ConsistsOf` says what a
reader finds: the lines of a text, each ended by a line feed and holding none. A text has one list
of lines at most (`ConsistsOf.unique`). Lines that were written one after the other are what a
reader finds exactly if none of them holds a line feed (`forall_join_consistsOf_iff`), and the
number of lines alone tells whether one does (`lineCount_join_eq_length_iff`).
-/

import Mathlib

namespace SqlLedger.Text

/-- How many lines a text ends. -/
def lineCount (text : String) : Nat :=
  text.toList.count '\n'

/-- The lines of a text, each ended by a line feed and holding none itself. -/
structure ConsistsOf (text : String) (lines : List String) : Prop where
  eq_join : text = String.join (lines.map (· ++ "\n"))
  notMem : ∀ line ∈ lines, '\n' ∉ line.toList

/-! ### One line and the rest -/

theorem toList_join_cons (line : String) (lines : List String) :
    (String.join ((line :: lines).map (· ++ "\n"))).toList =
      line.toList ++ '\n' :: (String.join (lines.map (· ++ "\n"))).toList := by
  rw [List.map_cons, String.join_cons, String.toList_append, String.toList_append,
    List.append_assoc]
  rfl

/-- A text has one first line. -/
theorem eq_of_append_lineFeed_eq {first second rest others : List Char}
    (whole : '\n' ∉ first) (otherWhole : '\n' ∉ second)
    (same : first ++ '\n' :: rest = second ++ '\n' :: others) : first = second ∧ rest = others := by
  induction first generalizing second with
  | nil =>
    rcases second with _ | ⟨char, second⟩
    · exact ⟨rfl, (List.cons.inj same).2⟩
    · exact absurd ((List.cons.inj same).1 ▸ List.mem_cons_self) otherWhole
  | cons char first inductionHypothesis =>
    rcases second with _ | ⟨other, second⟩
    · exact absurd ((List.cons.inj same).1 ▸ List.mem_cons_self) whole
    · obtain ⟨rfl, tails⟩ := List.cons.inj same
      obtain ⟨front, behind⟩ := inductionHypothesis (fun member => whole (.tail _ member))
        (fun member => otherWhole (.tail _ member)) tails
      exact ⟨congrArg (char :: ·) front, behind⟩

/-! ### All lines -/

namespace ConsistsOf

variable {text : String} {lines others : List String}

theorem unique (first : ConsistsOf text lines) (second : ConsistsOf text others) :
    lines = others := by
  obtain ⟨eqJoin, whole⟩ := first
  obtain ⟨otherJoin, otherWhole⟩ := second
  -- Only that both lists are joined to one text is carried through the induction.
  have same := congrArg String.toList (eqJoin.symm.trans otherJoin)
  clear eqJoin otherJoin
  induction lines generalizing others with
  | nil =>
    rcases others with _ | ⟨other, others⟩
    · rfl
    · rw [toList_join_cons] at same
      exact absurd same.symm (List.append_ne_nil_of_right_ne_nil _ (List.cons_ne_nil _ _))
  | cons line lines inductionHypothesis =>
    rcases others with _ | ⟨other, others⟩
    · rw [toList_join_cons] at same
      exact absurd same (List.append_ne_nil_of_right_ne_nil _ (List.cons_ne_nil _ _))
    · rw [toList_join_cons, toList_join_cons] at same
      obtain ⟨lineWhole, whole⟩ := List.forall_mem_cons.mp whole
      obtain ⟨otherLineWhole, otherWhole⟩ := List.forall_mem_cons.mp otherWhole
      obtain ⟨first, rest⟩ := eq_of_append_lineFeed_eq lineWhole otherLineWhole same
      rw [String.toList_inj.mp first, inductionHypothesis whole otherWhole rest]

end ConsistsOf

/-- Written lines end as many lines as they are, and one more for each line feed in them. -/
theorem lineCount_join (lines : List String) :
    lineCount (String.join (lines.map (· ++ "\n"))) =
      lines.length + (lines.map lineCount).sum := by
  induction lines with
  | nil => rfl
  | cons line lines inductionHypothesis =>
    unfold lineCount at inductionHypothesis ⊢
    rw [toList_join_cons, List.count_append, List.count_cons_self, inductionHypothesis,
      List.length_cons, List.map_cons, List.sum_cons]
    omega

theorem lineCount_join_eq_length_iff (lines : List String) :
    lineCount (String.join (lines.map (· ++ "\n"))) = lines.length ↔
      ∀ line ∈ lines, '\n' ∉ line.toList := by
  rw [lineCount_join, Nat.add_eq_left, List.sum_eq_zero_iff, List.forall_mem_map]
  exact forall₂_congr fun line _ => List.count_eq_zero

/-- Written lines are the lines of the text, and the only ones, exactly if none of them holds a
line feed. -/
theorem forall_join_consistsOf_iff (lines : List String) :
    (∀ others, ConsistsOf (String.join (lines.map (· ++ "\n"))) others ↔ others = lines) ↔
      ∀ line ∈ lines, '\n' ∉ line.toList := by
  constructor
  · intro found
    exact ((found lines).mpr rfl).notMem
  · intro whole others
    have written : ConsistsOf (String.join (lines.map (· ++ "\n"))) lines := ⟨rfl, whole⟩
    constructor
    · intro read
      exact read.unique written
    · rintro rfl
      exact written

/-! ### Finding the lines -/

/-- The lines of a text that is made of lines. -/
def linesOf (text : String) : List String :=
  (text.toList.splitOn '\n').dropLast.map String.ofList

/-- What a reader finds is what the text consists of. -/
theorem ConsistsOf.linesOf_eq {text : String} {lines : List String}
    (consists : ConsistsOf text lines) : linesOf text = lines := by
  obtain ⟨rfl, whole⟩ := consists
  unfold linesOf
  induction lines with
  | nil => rfl
  | cons line lines inductionHypothesis =>
    obtain ⟨lineWhole, whole⟩ := List.forall_mem_cons.mp whole
    rw [toList_join_cons, List.splitOn_append_cons_self_of_not_mem lineWhole,
      List.dropLast_cons_of_ne_nil (List.splitOn_ne_nil _ _), List.map_cons,
      inductionHypothesis whole, String.ofList_toList]

end SqlLedger.Text
