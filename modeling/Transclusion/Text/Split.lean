import Transclusion.Text.Blank

/-!
# Cutting texts apart

Splitting at a separator, removing a known beginning, and comparing texts without regard to the case
of ASCII letters. Each operation is defined on lists of characters and lifted to `String`.
-/

namespace Transclusion.Text

/-- The pieces of a list between the occurrences of `sep`; one more piece than separators. -/
def splitChars (sep : Char) : List Char → List (List Char)
  | [] => [[]]
  | c :: cs =>
    if c = sep then [] :: splitChars sep cs
    else match splitChars sep cs with
      | [] => [[c]]
      | piece :: pieces => (c :: piece) :: pieces

/-- The pieces of a text between the occurrences of `sep`. -/
def splitOn (sep : Char) (s : String) : List String :=
  (splitChars sep s.toList).map String.ofList

/-- What stands before and after the first occurrence of `sep`, if there is one. -/
def cutChars (sep : Char) : List Char → Option (List Char × List Char)
  | [] => none
  | c :: cs =>
    if c = sep then some ([], cs)
    else (cutChars sep cs).map fun (before, after) => (c :: before, after)

/-- What stands before and after the first occurrence of `sep` in a text. -/
def cutAt (sep : Char) (s : String) : Option (String × String) :=
  (cutChars sep s.toList).map fun (before, after) => (String.ofList before, String.ofList after)

/-- What follows `start` in a list that begins with it. -/
def afterChars : List Char → List Char → Option (List Char)
  | [], cs => some cs
  | _ :: _, [] => none
  | s :: start, c :: cs => if s = c then afterChars start cs else none

/-- What follows `start` in a text that begins with it. -/
def after (start s : String) : Option String :=
  (afterChars start.toList s.toList).map String.ofList

def lower (s : String) : String :=
  String.ofList (s.toList.map Char.toLower)

def upper (s : String) : String :=
  String.ofList (s.toList.map Char.toUpper)

/-- Equality up to the case of ASCII letters. -/
def sameIgnoringCase (a b : String) : Bool :=
  lower a == lower b

/-- A text without the characters at its start that satisfy `p`. -/
def dropStart (p : Char → Bool) (s : String) : String :=
  String.ofList (s.toList.dropWhile p)

/-- A text without the slashes at its start. -/
def dropSlashes (s : String) : String :=
  dropStart (· == '/') s

/-- A text in which every occurrence of a character is replaced by another text. -/
def replaceChar (c : Char) (by_ : String) (s : String) : String :=
  String.ofList (s.toList.flatMap fun d => if d = c then by_.toList else [d])

/-- The number that a list of decimal digits denotes. -/
def decimalValue (digits : List Char) : Nat :=
  digits.foldl (fun n c => 10 * n + (c.toNat - 48)) 0

/-- A number that fits a machine word: decimal digits, which a plus sign may precede. -/
def word? (cs : List Char) : Option Nat :=
  let digits := match cs with
    | '+' :: rest => rest
    | _ => cs
  let n := decimalValue digits
  if digits ≠ [] ∧ digits.all Char.isDigit ∧ n < Nat.pow 2 64 then some n else none

@[simp] theorem toList_lower (s : String) : (lower s).toList = s.toList.map Char.toLower := by
  simp [lower]

@[simp] theorem toList_dropStart (p : Char → Bool) (s : String) :
    (dropStart p s).toList = s.toList.dropWhile p := by
  simp [dropStart]

theorem head?_dropSlashes (s : String) : (dropSlashes s).toList.head? ≠ some '/' := by
  rw [dropSlashes, toList_dropStart]
  intro slash
  have stays := List.head?_dropWhile_not (· == '/') s.toList
  rw [slash] at stays
  cases stays

theorem dropSlashes_eq_self {s : String} (bare : s.toList.head? ≠ some '/') :
    dropSlashes s = s := by
  rw [← String.toList_inj, dropSlashes, toList_dropStart]
  cases chars : s.toList with
  | nil => rfl
  | cons c cs =>
    rw [chars, List.head?_cons, Ne, Option.some.injEq] at bare
    simp [bare]

theorem splitChars_of_not_mem {sep : Char} {cs : List Char} (h : sep ∉ cs) :
    splitChars sep cs = [cs] := by
  induction cs with
  | nil => rfl
  | cons c cs ih =>
    have hc : c ≠ sep := fun e => h (e ▸ List.mem_cons_self)
    have hcs : sep ∉ cs := fun m => h (List.mem_cons_of_mem _ m)
    simp [splitChars, hc, ih hcs]

/-- The first separator ends the first piece. -/
theorem splitChars_append_cons {sep : Char} {piece : List Char} (h : sep ∉ piece)
    (rest : List Char) :
    splitChars sep (piece ++ sep :: rest) = piece :: splitChars sep rest := by
  induction piece with
  | nil => simp [splitChars]
  | cons c piece ih =>
    have hc : c ≠ sep := fun e => h (e ▸ List.mem_cons_self)
    have hp : sep ∉ piece := fun m => h (List.mem_cons_of_mem _ m)
    simp [splitChars, hc, ih hp]

/-- Pieces without the separator are the pieces of the list that they make up. -/
theorem splitChars_intercalate {sep : Char} {pieces : List (List Char)} (nonempty : pieces ≠ [])
    (free : ∀ piece ∈ pieces, sep ∉ piece) :
    splitChars sep (List.intercalate [sep] pieces) = pieces := by
  induction pieces with
  | nil => exact absurd rfl nonempty
  | cons piece pieces ih =>
    have first := free piece List.mem_cons_self
    cases pieces with
    | nil => simpa [List.intercalate] using splitChars_of_not_mem first
    | cons next pieces =>
      have rest := ih (List.cons_ne_nil next pieces)
        fun piece member => free piece (List.mem_cons_of_mem _ member)
      have split := splitChars_append_cons first (List.intercalate [sep] (next :: pieces))
      simpa [List.intercalate, rest] using split.trans (congrArg (piece :: ·) rest)

/-- Removing a beginning succeeds exactly on the lists that have it. -/
theorem afterChars_eq_some_iff {start cs rest : List Char} :
    afterChars start cs = some rest ↔ cs = start ++ rest := by
  induction start generalizing cs with
  | nil => simp [afterChars]
  | cons s start ih =>
    cases cs with
    | nil => simp [afterChars]
    | cons c cs =>
      by_cases h : s = c
      · simp [afterChars, h, ih]
      · simp [afterChars, h, Ne.symm h]

theorem after_eq_some_iff {start s rest : String} :
    after start s = some rest ↔ s = start ++ rest := by
  unfold after
  rw [Option.map_eq_some_iff]
  constructor
  · rintro ⟨chars, found, rfl⟩
    rw [← String.toList_inj, String.toList_append, String.toList_ofList]
    exact afterChars_eq_some_iff.1 found
  · rintro rfl
    exact ⟨rest.toList, afterChars_eq_some_iff.2 String.toList_append, String.ofList_toList⟩

end Transclusion.Text
