/-
A JSON text is read back character by character.

Each character is written as one unit of the reader: a backslash with a letter, a backslash with the
digits of the code point, or the character alone if it is neither a quote nor a backslash nor a
control character (`readText?_escapeChar_append`). So the quote behind a text is the first that the
reader takes for the end, and what it has read by then is the text. Nothing that is written for a
text is a control character, so no text ends the line that it is printed on.
-/

import SqlLedger.Json.Printer
import SqlLedger.Json.Reader

namespace SqlLedger.Json

/-- Puts a character in front of a text that was read. -/
def prepend (char : Char) (read : List Char × List Char) : List Char × List Char :=
  (char :: read.1, read.2)

variable {char : Char} {allowsControls : Bool}

/-! ### Control characters -/

/-- A code point of two digits is read as its character. -/
theorem readText?_codePoint_append (control : char < ' ') (rest : List Char) :
    readText? allowsControls
        (['\\', 'u', '0', '0', Bytes.hexDigit (char.toNat / 16),
          Bytes.hexDigit (char.toNat % 16)] ++ rest) =
      (readText? allowsControls rest).map (prepend char) := by
  have small : char.toNat < 32 := control
  have digits : ∀ code < 32, Text.numberIn? 16
      ['0', '0', Bytes.hexDigit (code / 16), Bytes.hexDigit (code % 16)] = some code := by
    decide
  have noHigh : isHighSurrogate char.toNat = false := by
    simp only [isHighSurrogate, Bool.and_eq_false_iff, decide_eq_false_iff_not]
    omega
  have noLow : isLowSurrogate char.toNat = false := by
    simp only [isLowSurrogate, Bool.and_eq_false_iff, decide_eq_false_iff_not]
    omega
  simp only [List.cons_append, List.nil_append]
  rw [readText?]
  simp only [digits char.toNat small, noHigh, noLow, Char.ofNat_toNat]
  rfl

/-! ### All characters -/

/-- A character that needs no escape is read as it is. -/
theorem readText?_cons (notQuote : char ≠ '"') (notBackslash : char ≠ '\\')
    (printed : ¬ char < ' ') (rest : List Char) :
    readText? allowsControls (char :: rest) =
      (readText? allowsControls rest).map (prepend char) := by
  rw [readText?.eq_def]
  split
  · rename_i same
    cases same
  · rename_i same
    exact absurd (List.cons.inj same).1 notQuote
  · rename_i same
    exact absurd (List.cons.inj same).1 notBackslash
  · rename_i same
    exact absurd (List.cons.inj same).1 notBackslash
  · rename_i same
    cases same
    rw [if_neg (not_or.mpr ⟨notBackslash, fun control => printed control.1⟩)]
    rfl

/-- A character is written as one unit of the reader. -/
theorem readText?_escapeChar_append (char : Char) (rest : List Char) :
    readText? allowsControls (escapeChar char ++ rest) =
      (readText? allowsControls rest).map (prepend char) := by
  unfold escapeChar
  split
  case h_8 notQuote notBackslash _ _ _ _ _ =>
    split
    · rename_i control
      exact readText?_codePoint_append control rest
    · rename_i printed
      exact readText?_cons notQuote notBackslash printed rest
  all_goals
    simp only [List.cons_append, List.nil_append]
    rw [readText?]
    · rfl
    all_goals
      rintro _ _ _ _ _ ⟨⟩

/-- A text is read back from what is written for it, up to the quote behind it. -/
theorem readText?_flatMap_escapeChar_append (chars rest : List Char) :
    readText? allowsControls (chars.flatMap escapeChar ++ '"' :: rest) = some (chars, rest) := by
  induction chars with
  | nil =>
    rw [List.flatMap_nil, List.nil_append, readText?]
  | cons char chars inductionHypothesis =>
    rw [List.flatMap_cons, List.append_assoc, readText?_escapeChar_append, inductionHypothesis]
    rfl

/-! ### What is never written -/

/-- Nothing that is written for a character is a control character. -/
theorem not_control_of_mem_escapeChar (written : Char) :
    ∀ char ∈ escapeChar written, ¬ char < ' ' := by
  have digits : ∀ value < 16, ¬ Bytes.hexDigit value < ' ' := by
    decide
  unfold escapeChar
  split
  case h_8 =>
    split
    · rename_i control
      have small : written.toNat < 32 := control
      simp only [List.forall_mem_cons]
      exact ⟨by decide, by decide, by decide, by decide, digits _ (by omega), digits _ (by omega),
        List.forall_mem_nil _⟩
    · rename_i printed
      exact List.forall_mem_singleton.mpr printed
  all_goals
    exact List.forall_mem_cons.mpr ⟨by decide, List.forall_mem_singleton.mpr (by decide)⟩

theorem not_control_of_mem_printText (text : String) :
    ∀ char ∈ printText text, ¬ char < ' ' := by
  intro char member
  rw [printText, List.mem_append, List.mem_cons] at member
  rcases member with (rfl | inside) | last
  · decide
  · obtain ⟨written, -, among⟩ := List.mem_flatMap.mp inside
    exact not_control_of_mem_escapeChar written char among
  · rw [List.mem_singleton.mp last]
    decide

end SqlLedger.Json
