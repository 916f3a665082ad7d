/-
The sections of TOML.

A section gives values to keys of the table that its header names. In `[[name]]` the table is a new
element of a list, and a later header that leads through `name` leads into the last element so
far. So every section has a place: the names of its header, each with the number of the element
that it leads into, or zero where the name stands for a plain table.

No table is given twice, and none by two means. `Section.agree` says when a file keeps to that, and
`Section.entries` what it gives then.
-/

import SqlLedger.Configuration.Value

namespace SqlLedger.Configuration.Toml

/-- A key, as the names on the way to its value. -/
abbrev Key := List String

/-- A key with its value. -/
structure Pair where
  key : Key
  value : Value
  deriving DecidableEq, Repr

/-- No key is the beginning of another one, let alone the same: what has a value is no table. -/
def Pair.agree (pairs : List Pair) : Prop :=
  pairs.Pairwise fun first second =>
    ¬ first.key.isPrefixOf second.key ∧ ¬ second.key.isPrefixOf first.key

instance (pairs : List Pair) : Decidable (Pair.agree pairs) :=
  inferInstanceAs (Decidable (pairs.Pairwise _))

/-- A section: the names of its header, of which what stands in front of all headers has none, and
whether it is an element of a list. -/
structure Section where
  header : Key
  isElement : Bool
  pairs : List Pair
  deriving DecidableEq, Repr

/-! ### Places -/

/-- Where a section belongs: names, each with the number of an element or zero. -/
abbrev Place := List (String × Nat)

/-- A section with its place. -/
structure Located where
  place : Place
  content : Section
  deriving DecidableEq, Repr

/-- How many elements the list with a name has so far. -/
def elementCount (earlier : List Located) (parent : Place) (name : String) : Nat :=
  earlier.countP fun located =>
    located.content.isElement && located.place.dropLast = parent &&
      located.place.getLast?.any (·.1 = name)

/-- The place that the rest of a header leads to, given the place in front of it. -/
def placeOf (earlier : List Located) (isElement : Bool) (parent : Place) : Key → Place
  | [] => parent
  | [name] => parent ++ [(name, if isElement then elementCount earlier parent name + 1 else 0)]
  | name :: rest =>
    placeOf earlier isElement (parent ++ [(name, elementCount earlier parent name)]) rest

/-- The sections of a file with their places. -/
def locate (sections : List Section) : List Located :=
  sections.foldl
    (fun earlier content =>
      earlier ++ [⟨placeOf earlier content.isElement [] content.header, content⟩])
    []

/-! ### Agreement -/

/-- The name that follows at one place where another one ends. -/
def nextName? (outer inner : Place) : Option String :=
  if outer.isPrefixOf inner then (inner[outer.length]?).map (·.1) else none

namespace Located

/-- Two sections give the same name, and not as elements of one list. -/
def repeats (first second : Located) : Bool :=
  first.place.length = second.place.length &&
    first.place.dropLast = second.place.dropLast &&
    first.place.getLast?.map (·.1) = second.place.getLast?.map (·.1) &&
    !(first.content.isElement && second.content.isElement)

/-- A later section makes a list of what an earlier one treats as a table. -/
def makesList (earlier later : Located) : Bool :=
  later.content.isElement &&
    match later.place.getLast? with
    | some (name, _) => (later.place.dropLast ++ [(name, 0)]).isPrefixOf earlier.place
    | none => false

/-- A section gives a value to a name that is a table of the other one. -/
def shadows (outer inner : Located) : Bool :=
  match nextName? outer.place inner.place with
  | some name => outer.content.pairs.any fun pair => pair.key.head? = some name
  | none => false

/-- An earlier and a later section go together. -/
def agrees (earlier later : Located) : Bool :=
  !(earlier.repeats later || earlier.makesList later || earlier.shadows later ||
    later.shadows earlier)

/-- What a section gives at the top level. -/
def entries (located : Located) : Entries :=
  match located.place with
  | [] =>
    located.content.pairs.filterMap fun pair =>
      match pair.key with
      | [] => none
      | [name] => some (name, pair.value)
      | name :: _ => some (name, .table false)
  | [(name, 0)] => [(name, .table located.content.pairs.isEmpty)]
  | (name, 0) :: _ => [(name, .table false)]
  | (name, _) :: _ => [(name, .list)]

end Located

/-- The sections of a file go together, and the pairs of each do. -/
def Section.agree (sections : List Section) : Prop :=
  (∀ content ∈ sections, Pair.agree content.pairs) ∧
    (locate sections).Pairwise fun earlier later => earlier.agrees later

instance (sections : List Section) : Decidable (Section.agree sections) :=
  inferInstanceAs (Decidable (_ ∧ _))

/-! ### Entries -/

/-- Adds an entry. What a table holds already it keeps. -/
def putInto (entries : Entries) (entry : String × Value) : Entries :=
  match entries.find? entry.1, entry.2 with
  | some (.table first), .table second => entries.put entry.1 (.table (first && second))
  | _, value => entries.put entry.1 value

/-- What sections give at the top level. -/
def Section.entries (sections : List Section) : Entries :=
  ((locate sections).flatMap Located.entries).foldl putInto []

end SqlLedger.Configuration.Toml
