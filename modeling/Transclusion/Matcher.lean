import Transclusion.Pattern.Basic

/-!
# Matchers

A matcher locates one kind of embeddable block in a document. A named matcher answers for its name
and for every dotted name below it; an unnamed one always applies.
-/

namespace Transclusion

/-- How a requested name relates to the name of a matcher. -/
inductive NameMatch where
  /-- The name itself. -/
  | exact
  /-- A name below it; what follows the dot is carried along. -/
  | child (rest : String)
deriving DecidableEq, Repr

/-- A named rule that extracts blocks. -/
structure Matcher where
  /-- `none` for the default matcher. -/
  name : Option String
  /-- Each match is one block. -/
  pattern : Pattern
  /-- Finds the reference inside a block. -/
  reference : Option Pattern
  /-- Names that a block already holds, sorted and without repetitions. -/
  present : List String
deriving Repr, Inhabited

/-- Put a text into a sorted list, unless it is there. -/
def insertSorted (s : String) : List String → List String
  | [] => [s]
  | t :: ts => if s < t then s :: t :: ts else if s = t then t :: ts else t :: insertSorted s ts

/-- The members of a list, sorted and without repetitions. -/
def sortedSet (ss : List String) : List String := ss.foldr insertSorted []

namespace Matcher

def make (name : Option String) (pattern : Pattern) (reference : Option Pattern)
    (present : List String) : Matcher :=
  ⟨name, pattern, reference, sortedSet present⟩

def isUnnamed (m : Matcher) : Bool := m.name.isNone

/-- The beginning of every name below the matcher's. -/
def namePrefix (m : Matcher) : Option String := m.name.map (· ++ ".")

/-- How a requested name relates to the matcher, if it does. -/
def matchName (m : Matcher) (requested : String) : Option NameMatch :=
  match m.name with
  | none => none
  | some name =>
    if name = requested then some .exact
    else (Text.after (name ++ ".") requested).map .child

/-- Whether blocks already hold all of some names; a matcher that lists none holds nothing. -/
def presentsAll (m : Matcher) (names : List String) : Bool :=
  !m.present.isEmpty && names.all m.present.contains

/-- The reference in a block: the first group of the reference pattern that is not empty. -/
def findReference (m : Matcher) (block : String) : Option String :=
  match m.reference with
  | none => none
  | some pattern =>
    match pattern.firstMatch? block with
    | none => none
    | some found => (found.groups.filterMap id).find? (· != "")

end Matcher

end Transclusion
