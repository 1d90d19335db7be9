/-!
# Indexes

An index numbers the characters of a charset. The numbers are called pointers; some stand for no
character, and a character can have several.
-/

namespace Transclusion

/-- A part of an index, from one pointer to the next. -/
inductive Stretch where
  | text (s : String)
  /-- Characters whose code points follow each other. -/
  | run (first count : Nat)
  /-- Pointers without a character. -/
  | gap (count : Nat)

def Stretch.chars : Stretch → List (Option Char)
  | text s => s.toList.map some
  | run first count => (List.range' first count).map fun n => some (Char.ofNat n)
  | gap count => List.replicate count none

structure Index where
  chars : Array (Option Char)

namespace Index

def ofStretches (stretches : List Stretch) : Index :=
  ⟨(stretches.flatMap Stretch.chars).toArray⟩

def char? (i : Index) (pointer : Nat) : Option Char := i.chars[pointer]?.join

/-- The first pointer of a character among those that are admitted. -/
def pointer? (i : Index) (admits : Nat → Bool) (c : Char) : Option Nat :=
  (List.range i.chars.size).find? fun p => admits p && i.char? p == some c

/-- The last pointer of a character among those that are admitted. -/
def lastPointer? (i : Index) (admits : Nat → Bool) (c : Char) : Option Nat :=
  (List.range i.chars.size).reverse.find? fun p => admits p && i.char? p == some c

variable {i : Index} {admits : Nat → Bool} {c : Char} {p : Nat}

theorem of_pointer? (found : i.pointer? admits c = some p) :
    admits p = true ∧ i.char? p = some c := by
  simpa using List.find?_some found

theorem of_lastPointer? (found : i.lastPointer? admits c = some p) :
    admits p = true ∧ i.char? p = some c := by
  simpa using List.find?_some found

end Index

end Transclusion
