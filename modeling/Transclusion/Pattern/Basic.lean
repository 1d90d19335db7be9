import Transclusion.Pattern.Reader
import Transclusion.Pattern.Search

/-!
# Patterns

A pattern is a text that compiles. `Pattern.cut` cuts a text at the successive matches of a
pattern into gaps and matches; scanning, testing and replacing are all defined by it.

## Main results

`Pattern.text_cut`: the gaps and matches of a cut, put together again, are the text.
-/

namespace Transclusion

/-- A compiled pattern, with the text it was compiled from and the names of its groups. -/
structure Pattern where
  source : String
  program : Pattern.Program
  names : List (String × Nat)
deriving Repr, Inhabited

/-- One match of a pattern: the text it covers and the texts of its groups, numbered from 1. A group
that took no part in the match is `none`. -/
structure Match where
  whole : String
  groups : List (Option String)
deriving DecidableEq, Repr, Inhabited

/-- A text cut at matches: each match with the gap before it, and what follows the last one. -/
structure Cut where
  pieces : List (String × Match)
  tail : String
deriving DecidableEq, Repr, Inhabited

namespace Match

/-- The text of a group; group 0 is the whole match, and a missing group is empty. -/
def group (m : Match) : Nat → String
  | 0 => m.whole
  | k + 1 => ((m.groups[k]?).join).getD ""

end Match

namespace Cut

/-- The text that was cut. -/
def text (c : Cut) : List Char :=
  c.pieces.flatMap (fun (gap, m) => gap.toList ++ m.whole.toList) ++ c.tail.toList

/-- Put another piece in front. -/
def cons (gap : String) (m : Match) (c : Cut) : Cut := ⟨(gap, m) :: c.pieces, c.tail⟩

/-- The matches, in order. -/
def found (c : Cut) : List Match := c.pieces.map (·.2)

end Cut

namespace Pattern

/-- The largest program that is compiled. -/
def weightLimit : Nat := 400000

/-- Compile the text of a pattern. -/
def compile? (source : String) : Option Pattern :=
  match Expr.read? source with
  | none => none
  | some (e, groups) =>
    if weightLimit < e.weight then none else some ⟨source, .ofExpr e, groups.names⟩

/-- The number of a named group. -/
def groupNamed? (p : Pattern) (name : String) : Option Nat :=
  (p.names.find? fun (n, _) => n == name).map (·.2)

/-- The characters of a list from position `a` up to position `b`. -/
def slice (a b : Nat) (cs : List Char) : List Char := (cs.drop a).take (b - a)

/-- The positions of a group that took part in a match. -/
def span? (slots : Slots) (k : Nat) : Option (Nat × Nat) :=
  match slots[2 * k]?, slots[2 * k + 1]? with
  | some (some a), some (some b) => some (a, b)
  | _, _ => none

/-- The texts of the groups of a match, numbered from 1. -/
def groupTexts (slots : Slots) (cs : List Char) : List (Option String) :=
  (List.range (slots.size / 2 - 1)).map fun k =>
    (span? slots (k + 1)).map fun (a, b) => String.ofList (slice a b cs)

/-- The leftmost match in a list whose neighbour on the left is `before`: where it starts, how many
characters it covers, and its groups. -/
def findIn (p : Pattern) (before : Option Char) (cs : List Char) :
    Option (Nat × Nat × List (Option String)) :=
  match p.program.search before cs with
  | none => none
  | some slots => (span? slots 0).map fun (a, b) => (a, b - a, groupTexts slots cs)

/-- The last character of a list, or `before` if there is none. -/
def lastOr (before : Option Char) (cs : List Char) : Option Char := (cs.getLast?).or before

/-- Cut a list at the matches from here on. `touching` tells that a match ends right here, where an
empty match is then not counted: the search goes on after the next character, which joins the gap.
The fuel bounds the number of searches. -/
def cutFrom (p : Pattern) : Nat → Option Char → Bool → List Char → List Char → Cut
  | 0, _, _, gap, rest => ⟨[], String.ofList (gap ++ rest)⟩
  | fuel + 1, before, touching, gap, rest =>
    match p.findIn before rest with
    | none => ⟨[], String.ofList (gap ++ rest)⟩
    | some (start, size, groups) =>
      -- An empty match that touches the last one is not counted.
      if touching ∧ start = 0 ∧ size = 0 then
        match rest with
        | [] => ⟨[], String.ofList gap⟩
        | c :: more => cutFrom p fuel (some c) false (gap ++ [c]) more
      else
        let whole := (rest.drop start).take size
        (cutFrom p fuel (lastOr before (rest.take (start + size))) true []
          (rest.drop (start + size))).cons
            (String.ofList (gap ++ rest.take start)) ⟨String.ofList whole, groups⟩

/-- Cut a text at the successive matches of a pattern. -/
def cut (p : Pattern) (text : String) : Cut :=
  p.cutFrom (2 * text.toList.length + 2) none false [] text.toList

/-- Whether the pattern matches somewhere in a text. -/
def isMatch (p : Pattern) (text : String) : Bool := (p.findIn none text.toList).isSome

/-- The first match in a text. -/
def firstMatch? (p : Pattern) (text : String) : Option Match :=
  (p.findIn none text.toList).map fun (start, size, groups) =>
    ⟨String.ofList ((text.toList.drop start).take size), groups⟩

/-- Replace every match in a text. -/
def replaceAll (p : Pattern) (text : String) (by_ : Match → List Char) : String :=
  let c := p.cut text
  String.ofList
    (c.pieces.flatMap (fun (gap, m) => gap.toList ++ by_ m) ++ c.tail.toList)

/-- Nothing is lost or moved by cutting, wherever it starts and however long it goes on. -/
theorem text_cutFrom (p : Pattern) (fuel : Nat) (before : Option Char) (touching : Bool)
    (gap rest : List Char) : (p.cutFrom fuel before touching gap rest).text = gap ++ rest := by
  induction fuel generalizing before touching gap rest with
  | zero => simp [cutFrom, Cut.text]
  | succ fuel ih =>
    unfold cutFrom
    split
    · simp [Cut.text]
    · rename_i start size groups _
      split
      · split
        · simp [Cut.text]
        · simp [ih]
      · have key := ih (lastOr before (rest.take (start + size))) true [] (rest.drop (start + size))
        simp only [Cut.text, Cut.cons, List.flatMap_cons, String.toList_ofList] at key ⊢
        rw [List.append_assoc, key, List.nil_append]
        have h : rest.drop (start + size) = (rest.drop start).drop size := by
          rw [List.drop_drop]
        rw [h, List.append_assoc, List.append_assoc, List.take_append_drop,
          List.take_append_drop]

/-- Nothing is lost or moved by cutting a text. -/
theorem text_cut (p : Pattern) (text : String) : (p.cut text).text = text.toList := by
  simp [cut, text_cutFrom]

end Pattern

end Transclusion
