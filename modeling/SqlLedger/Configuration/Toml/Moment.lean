/-
Dates and times of TOML.

A moment is a date, a time of day, or both, and in the last case it may say how far its clock is
from universal time. Settings know no moments, so one counts as the text that shows it: with a `T`
between date and time, a fraction of at most nine digits without zeros at its end, and an offset
with two digits on each side of its colon.
-/

import SqlLedger.Text.CodePoint

namespace SqlLedger.Configuration.Toml

/-- A day of the calendar. -/
structure Day where
  year : Nat
  month : Nat
  day : Nat
  deriving DecidableEq, Repr

/-- A time of day. -/
structure Clock where
  hour : Nat
  minute : Nat
  second : Nat
  /-- The digits behind the point of the seconds, nine at most. -/
  fraction : List Nat
  deriving DecidableEq, Repr

/-- How far a clock is from universal time. -/
inductive Offset
  | universal
  | shifted (hours : Int) (minutes : Nat)
  deriving DecidableEq, Repr

/-- A date, a time of day, or both. -/
structure Moment where
  day : Option Day
  clock : Option Clock
  offset : Option Offset
  deriving DecidableEq, Repr

/-! ### Reading -/

/-- Takes a number of exactly `width` digits. -/
def takeFigure? (width : Nat) (chars : List Char) : Option (Nat × List Char) := do
  if chars.length < width then none
  return (← Text.numberIn? 10 (chars.take width), chars.drop width)

/-- Takes a character. -/
def takeMark? (mark : Char) : List Char → Option (List Char)
  | char :: rest => if char = mark then some rest else none
  | [] => none

/-- Takes a date. Every month may have thirty-one days. -/
def takeDay? (chars : List Char) : Option (Day × List Char) := do
  let (year, rest) ← takeFigure? 4 chars
  let (month, rest) ← takeFigure? 2 (← takeMark? '-' rest)
  let (day, rest) ← takeFigure? 2 (← takeMark? '-' rest)
  if month < 1 ∨ 12 < month ∨ day < 1 ∨ 31 < day then none
  return (⟨year, month, day⟩, rest)

/-- Takes the digits behind the point of the seconds, if there is one. Those behind the ninth are
dropped. -/
def takeFraction? : List Char → Option (List Nat × List Char)
  | '.' :: rest =>
    match (rest.takeWhile Char.isDigit).filterMap Text.digitValue? with
    | [] => none
    | digits => some (digits.take 9, rest.dropWhile Char.isDigit)
  | rest => some ([], rest)

/-- Takes a time of day. -/
def takeClock? (chars : List Char) : Option (Clock × List Char) := do
  let (hour, rest) ← takeFigure? 2 chars
  let (minute, rest) ← takeFigure? 2 (← takeMark? ':' rest)
  let (second, rest) ← takeFigure? 2 (← takeMark? ':' rest)
  let (fraction, rest) ← takeFraction? rest
  if 24 < hour ∨ 59 < minute ∨ 59 < second then none
  return (⟨hour, minute, second, fraction⟩, rest)

/-- Reads an offset up to the end of a text, or nothing. -/
def readOffset? : List Char → Option (Option Offset)
  | [] => some none
  | ['Z'] | ['z'] => some (some .universal)
  | sign :: rest => do
    if sign ≠ '+' ∧ sign ≠ '-' then none
    let (hours, rest) ← takeFigure? 2 rest
    let (minutes, rest) ← takeFigure? 2 (← takeMark? ':' rest)
    if rest ≠ [] then none
    return some (.shifted (if sign = '-' then -(hours : Int) else hours) minutes)

/-- Reads a moment. A time without a date has a colon behind its second digit. -/
def Moment.read? (chars : List Char) : Option Moment := do
  if (chars.drop 2).head? = some ':' then
    let (clock, rest) ← takeClock? chars
    if rest ≠ [] then none
    return ⟨none, some clock, none⟩
  else
    let (day, rest) ← takeDay? chars
    match rest with
    | [] => return ⟨some day, none, none⟩
    | char :: rest =>
      if char ≠ 'T' ∧ char ≠ 't' ∧ char ≠ ' ' then none
      let (clock, rest) ← takeClock? rest
      return ⟨some day, some clock, ← readOffset? rest⟩

/-! ### Showing -/

/-- A number of at least `width` digits. -/
def figure (width number : Nat) : List Char :=
  let digits := Nat.toDigits 10 number
  List.replicate (width - digits.length) '0' ++ digits

/-- A date as it is shown. -/
def Day.shown (day : Day) : List Char :=
  figure 4 day.year ++ '-' :: figure 2 day.month ++ '-' :: figure 2 day.day

/-- The fraction of a second as it is shown, with its point. -/
def shownFraction (digits : List Nat) : List Char :=
  match (digits.reverse.dropWhile (· = 0)).reverse with
  | [] => []
  | digits => '.' :: digits.flatMap (Nat.toDigits 10)

/-- A time as it is shown. -/
def Clock.shown (clock : Clock) : List Char :=
  figure 2 clock.hour ++ ':' :: figure 2 clock.minute ++ ':' :: figure 2 clock.second ++
    shownFraction clock.fraction

/-- An offset as it is shown. No hours are shown with a plus sign, also if they were written with a
minus sign. -/
def Offset.shown : Offset → List Char
  | universal => ['Z']
  | shifted hours minutes =>
    (if hours < 0 then '-' else '+') :: figure 2 hours.natAbs ++ ':' :: figure 2 minutes

/-- The text that shows a moment. -/
def Moment.text (moment : Moment) : String :=
  let day := (moment.day.map Day.shown).getD []
  let clock := (moment.clock.map Clock.shown).getD []
  let between := if moment.day.isSome ∧ moment.clock.isSome then ['T'] else []
  String.ofList (day ++ between ++ clock ++ (moment.offset.map Offset.shown).getD [])

end SqlLedger.Configuration.Toml
