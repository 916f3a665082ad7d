/-
Texts are cut into tokens piece by piece.

Cutting takes fuel, one unit for each token, and a character is the least that a token takes; so
`Cuts` asks for the tokens of a text whatever the fuel is from its length on, and cutting the rest
of a text says how the whole is cut once the first token is known. A mark is a token wherever it
stands. Blanks and words go on for as long as they can, so they are one token each where what
follows begins with no character of their kind.
-/

import Mathlib
import SqlLedger.Configuration.Toml.Token

namespace SqlLedger.Configuration.Toml

/-! ### Pieces -/

/-- A text is cut into tokens, whatever the fuel from its length on. -/
def Cuts (chars : List Char) (tokens : List Token) : Prop :=
  ∀ fuel, chars.length ≤ fuel → cut? fuel chars = some tokens

variable {char : Char} {rest : List Char} {token : Token} {behind : List Token}

theorem Cuts.nil : Cuts [] [] := by
  intro fuel enough
  cases fuel <;> rfl

theorem Cuts.unique {chars : List Char} {first second : List Token} (cuts : Cuts chars first)
    (again : Cuts chars second) : first = second :=
  Option.some.inj ((cuts chars.length le_rfl).symm.trans (again chars.length le_rfl))

/-- A token in front of a text that is cut. -/
theorem Cuts.cons {chars : List Char} (taken : takeToken? char (chars ++ rest) = some (token, rest))
    (cuts : Cuts rest behind) : Cuts (char :: chars ++ rest) (token :: behind) := by
  intro fuel enough
  rw [List.cons_append, List.length_cons, List.length_append] at enough
  obtain ⟨fuel, rfl⟩ : ∃ less, fuel = less + 1 := ⟨fuel - 1, by omega⟩
  rw [List.cons_append, cut?, taken]
  simp only [Option.bind_eq_bind, Option.bind_some, cuts fuel (by omega)]
  rfl

theorem Cuts.mark (mark : ofMark? char = some token) (cuts : Cuts rest behind) :
    Cuts (char :: rest) (token :: behind) := by
  have taken : takeToken? char ([] ++ rest) = some (token, rest) := by
    rw [takeToken?, mark]
    rfl
  exact Cuts.cons taken cuts

/-! ### Blanks and words -/

theorem takeWhile_append_of_stops {kind : Char → Bool} {chars : List Char}
    (all : ∀ char ∈ chars, kind char = true) (stops : ∀ char ∈ rest.head?, kind char = false) :
    (chars ++ rest).takeWhile kind = chars ∧ (chars ++ rest).dropWhile kind = rest := by
  rw [List.takeWhile_append_of_pos all, List.dropWhile_append_of_pos all]
  cases rest with
  | nil => exact ⟨List.append_nil chars, rfl⟩
  | cons char rest =>
    have notKind : ¬ kind char = true := ne_true_of_eq_false (stops char rfl)
    rw [List.takeWhile_cons_of_neg notKind, List.dropWhile_cons_of_neg notKind, List.append_nil]
    exact ⟨rfl, rfl⟩

theorem ofMark?_eq_none (notMark : isWordChar char = true ∨ isBlank char = true) :
    ofMark? char = none := by
  unfold ofMark?
  split <;> first | rfl | exact absurd notMark (by decide)

theorem isBlank_eq_false_of_isWordChar (word : isWordChar char = true) : isBlank char = false := by
  simp only [isBlank, Bool.or_eq_false_iff, decide_eq_false_iff_not]
  constructor <;> rintro rfl <;> exact absurd word (by decide)

theorem Cuts.word {chars : List Char} (nonempty : chars ≠ [])
    (word : ∀ char ∈ chars, isWordChar char = true)
    (stops : ∀ char ∈ rest.head?, isWordChar char = false) (cuts : Cuts rest behind) :
    Cuts (chars ++ rest) (.word chars :: behind) := by
  obtain ⟨char, chars, rfl⟩ := List.exists_cons_of_ne_nil nonempty
  obtain ⟨first, further⟩ := List.forall_mem_cons.mp word
  obtain ⟨taken, left⟩ := takeWhile_append_of_stops further stops
  refine Cuts.cons ?_ cuts
  rw [takeToken?, ofMark?_eq_none (Or.inl first)]
  simp only [isBlank_eq_false_of_isWordChar first, first, taken, left, if_true, Bool.false_eq_true,
    if_false]

/-! ### Gaps -/

/-- Blanks within a line, of which there may be none. -/
abbrev Gap :=
  { chars : List Char // ∀ char ∈ chars, isBlank char = true }

namespace Gap

/-- No blanks. -/
def none : Gap :=
  ⟨[], nofun⟩

/-- One space. -/
def space : Gap :=
  ⟨[' '], List.forall_mem_singleton.mpr rfl⟩

/-- The token of blanks, if there are any. -/
def tokens (gap : Gap) : List Token :=
  if gap.val = [] then [] else [.blanks gap.val]

theorem cuts (gap : Gap) (notBlank : isBlank char = false) (cuts : Cuts (char :: rest) behind) :
    Cuts (gap.val ++ char :: rest) (gap.tokens ++ behind) := by
  have stops : ∀ first ∈ (char :: rest).head?, isBlank first = false := by
    rintro _ ⟨⟩
    exact notBlank
  obtain ⟨chars, blank⟩ := gap
  cases chars with
  | nil => exact cuts
  | cons first further =>
    obtain ⟨firstBlank, furtherBlank⟩ := List.forall_mem_cons.mp blank
    obtain ⟨taken, left⟩ := takeWhile_append_of_stops furtherBlank stops
    refine Cuts.cons ?_ cuts
    rw [takeToken?, ofMark?_eq_none (Or.inr firstBlank)]
    simp only [firstBlank, taken, left, if_true]

/-- A gap begins with a blank, or else with what follows it. -/
theorem isBlank_or_eq_of_mem_head? (gap : Gap) :
    ∀ first ∈ (gap.val ++ char :: rest).head?, isBlank first = true ∨ first = char := by
  obtain ⟨chars, blank⟩ := gap
  cases chars with
  | nil =>
    rintro _ ⟨⟩
    exact Or.inr rfl
  | cons first further =>
    rintro _ ⟨⟩
    exact Or.inl (blank _ List.mem_cons_self)

end Gap

/-! ### Files -/

theorem foldLineEnds_of_notMem {chars : List Char} (noReturn : '\r' ∉ chars) :
    foldLineEnds chars = chars := by
  induction chars with
  | nil => rfl
  | cons char chars inductionHypothesis =>
    obtain ⟨other, noReturn⟩ := not_or.mp (mt List.mem_cons.mpr noReturn)
    rw [foldLineEnds, inductionHypothesis noReturn]
    rintro _ rfl
    exact absurd rfl other

/-- A text without carriage returns that is cut into tokens has these tokens as a file. -/
theorem tokens?_of_cuts {chars : List Char} {tokens : List Token} (noReturn : '\r' ∉ chars)
    (cuts : Cuts chars tokens) : tokens? (String.ofList chars) = some tokens := by
  rw [tokens?, String.toList_ofList, foldLineEnds_of_notMem noReturn]
  split
  · -- No token begins with a byte order mark.
    rename_i rest
    exact nomatch cuts (rest.length + 1) le_rfl
  · exact cuts chars.length le_rfl

end SqlLedger.Configuration.Toml
