import Transclusion.Text.Category
import Transclusion.Text.Folding
import Transclusion.Text.Script

/-!
# Sets of characters

What one position of a pattern may match: a set of code points as a list of ranges. Sets are closed
under union, complement and intersection; `normalize` keeps the ranges sorted and apart, which the
complement relies on.
-/

namespace Transclusion.Pattern

/-- A set of code points. -/
structure CharSet where
  ranges : List (Nat × Nat)
deriving DecidableEq, Repr, Inhabited

namespace CharSet

/-- The largest code point. -/
def top : Nat := 0x10FFFF

/-- Whether a character belongs to the set. -/
def contains (s : CharSet) (c : Char) : Bool := Text.CodeRange.mem s.ranges c.toNat

/-- Sort the ranges and let none touch another. -/
def normalize (ranges : List (Nat × Nat)) : List (Nat × Nat) :=
  mergeAll none (ranges.mergeSort fun a b => a.1 ≤ b.1)
where
  /-- Merge a sorted list from the left, holding the range being built. -/
  mergeAll : Option (Nat × Nat) → List (Nat × Nat) → List (Nat × Nat)
    | none, [] => []
    | some held, [] => [held]
    | none, r :: rest => mergeAll (some r) rest
    | some held, r :: rest =>
      if r.1 ≤ held.2 + 1 then mergeAll (some (held.1, max held.2 r.2)) rest
      else held :: mergeAll (some r) rest

/-- The set with the given ranges, in any order. -/
def ofRanges (ranges : List (Nat × Nat)) : CharSet := ⟨normalize ranges⟩

/-- The set of one character. -/
def single (c : Char) : CharSet := ⟨[(c.toNat, c.toNat)]⟩

/-- The set of all characters. -/
def all : CharSet := ⟨[(0, top)]⟩

/-- The set without members. -/
def none : CharSet := ⟨[]⟩

/-- The gaps between sorted ranges, from `start` on. -/
def gaps (start : Nat) : List (Nat × Nat) → List (Nat × Nat)
  | [] => if start ≤ top then [(start, top)] else []
  | (low, high) :: rest =>
    if start < low then (start, low - 1) :: gaps (high + 1) rest else gaps (high + 1) rest

/-- The characters outside the set. -/
def complement (s : CharSet) : CharSet := ⟨gaps 0 (normalize s.ranges)⟩

/-- The characters of either set. -/
def union (s t : CharSet) : CharSet := ofRanges (s.ranges ++ t.ranges)

/-- The characters of both sets. -/
def inter (s t : CharSet) : CharSet := (s.complement.union t.complement).complement

/-- The characters of the first set that are not in the second. -/
def diff (s t : CharSet) : CharSet := s.inter t.complement

/-- The characters of exactly one of the sets. -/
def symmDiff (s t : CharSet) : CharSet := (s.diff t).union (t.diff s)

/-- The set together with every character that differs from a member in case only. -/
def foldCase (s : CharSet) : CharSet := ofRanges (Text.Folding.close s.ranges)

/-- Whether all members are ASCII. -/
def isAscii (s : CharSet) : Bool := s.ranges.all fun (_, high) => high < 0x80

/-! ### Sets by name -/

/-- The set written in lines of range words. -/
def ofLines (lines : List String) : CharSet := ofRanges (Text.CodeRange.ofLines lines)

open Text.Category in
/-- The general categories, each under its short and its long name in loose spelling. -/
def categories : List (List String × List (List String)) :=
  [(["lu", "uppercaseletter"], [uppercaseLetter]),
    (["ll", "lowercaseletter"], [lowercaseLetter]),
    (["lt", "titlecaseletter"], [titlecaseLetter]),
    (["lc", "casedletter"], [uppercaseLetter, lowercaseLetter, titlecaseLetter]),
    (["lm", "modifierletter"], [modifierLetter]),
    (["lo", "otherletter"], [otherLetter]),
    (["l", "letter"],
      [uppercaseLetter, lowercaseLetter, titlecaseLetter, modifierLetter, otherLetter]),
    (["mn", "nonspacingmark"], [nonspacingMark]),
    (["mc", "spacingmark"], [spacingMark]),
    (["me", "enclosingmark"], [enclosingMark]),
    (["m", "mark", "combiningmark"], [nonspacingMark, spacingMark, enclosingMark]),
    (["nd", "decimalnumber", "digit"], [decimalNumber]),
    (["nl", "letternumber"], [letterNumber]),
    (["no", "othernumber"], [otherNumber]),
    (["n", "number"], [decimalNumber, letterNumber, otherNumber]),
    (["pc", "connectorpunctuation"], [connectorPunctuation]),
    (["pd", "dashpunctuation"], [dashPunctuation]),
    (["ps", "openpunctuation"], [openPunctuation]),
    (["pe", "closepunctuation"], [closePunctuation]),
    (["pi", "initialpunctuation"], [initialPunctuation]),
    (["pf", "finalpunctuation"], [finalPunctuation]),
    (["po", "otherpunctuation"], [otherPunctuation]),
    (["p", "punctuation", "punct"],
      [connectorPunctuation, dashPunctuation, openPunctuation, closePunctuation,
        initialPunctuation, finalPunctuation, otherPunctuation]),
    (["sm", "mathsymbol"], [mathSymbol]),
    (["sc", "currencysymbol"], [currencySymbol]),
    (["sk", "modifiersymbol"], [modifierSymbol]),
    (["so", "othersymbol"], [otherSymbol]),
    (["s", "symbol"], [mathSymbol, currencySymbol, modifierSymbol, otherSymbol]),
    (["zs", "spaceseparator"], [spaceSeparator]),
    (["zl", "lineseparator"], [lineSeparator]),
    (["zp", "paragraphseparator"], [paragraphSeparator]),
    (["z", "separator"], [spaceSeparator, lineSeparator, paragraphSeparator]),
    (["cc", "control", "cntrl"], [control]),
    (["cf", "format"], [format]),
    (["co", "privateuse"], [privateUse])]

/-- The assigned characters: those that some category lists. -/
def assigned : CharSet :=
  ofRanges (categories.flatMap fun (_, parts) => parts.flatMap Text.CodeRange.ofLines)

/-- The characters with the property `Alphabetic`. -/
def alphabetic : CharSet :=
  open Text.Category in
  ofLines (uppercaseLetter ++ lowercaseLetter ++ titlecaseLetter ++ modifierLetter ++ otherLetter ++
    letterNumber ++ otherAlphabetic)

/-- The decimal digits of all scripts. -/
def digit : CharSet := ofLines Text.Category.decimalNumber

/-- The numbers of all kinds. -/
def number : CharSet :=
  ofLines (Text.Category.decimalNumber ++ Text.Category.letterNumber ++ Text.Category.otherNumber)

/-- The white space of Unicode. -/
def space : CharSet :=
  ⟨[(9, 13), (0x20, 0x20), (0x85, 0x85), (0xA0, 0xA0), (0x1680, 0x1680), (0x2000, 0x200A),
    (0x2028, 0x2029), (0x202F, 0x202F), (0x205F, 0x205F), (0x3000, 0x3000)]⟩

/-- The characters of words: letters, marks, digits, connectors and the two joiners. -/
def word : CharSet :=
  open Text.Category in
  (alphabetic.union (ofLines (nonspacingMark ++ spacingMark ++ enclosingMark ++ decimalNumber ++
    connectorPunctuation))).union ⟨[(0x200C, 0x200D)]⟩

/-- The ASCII digits. -/
def asciiDigit : CharSet := ⟨[(0x30, 0x39)]⟩

/-- The ASCII white space. -/
def asciiSpace : CharSet := ⟨[(9, 13), (0x20, 0x20)]⟩

/-- The ASCII characters of words. -/
def asciiWord : CharSet := ⟨[(0x30, 0x39), (0x41, 0x5A), (0x5F, 0x5F), (0x61, 0x7A)]⟩

/-- The ASCII classes that are written `[:name:]`. -/
def asciiClass? : String → Option CharSet
  | "alnum" => some ⟨[(0x30, 0x39), (0x41, 0x5A), (0x61, 0x7A)]⟩
  | "alpha" => some ⟨[(0x41, 0x5A), (0x61, 0x7A)]⟩
  | "ascii" => some ⟨[(0, 0x7F)]⟩
  | "blank" => some ⟨[(9, 9), (0x20, 0x20)]⟩
  | "cntrl" => some ⟨[(0, 0x1F), (0x7F, 0x7F)]⟩
  | "digit" => some asciiDigit
  | "graph" => some ⟨[(0x21, 0x7E)]⟩
  | "lower" => some ⟨[(0x61, 0x7A)]⟩
  | "print" => some ⟨[(0x20, 0x7E)]⟩
  | "punct" => some ⟨[(0x21, 0x2F), (0x3A, 0x40), (0x5B, 0x60), (0x7B, 0x7E)]⟩
  | "space" => some asciiSpace
  | "upper" => some ⟨[(0x41, 0x5A)]⟩
  | "word" => some asciiWord
  | "xdigit" => some ⟨[(0x30, 0x39), (0x41, 0x46), (0x61, 0x66)]⟩
  | _ => Option.none

/-- A property name in loose spelling: lower case, without blanks, hyphens and underscores. -/
def loose (name : String) : String :=
  let name := String.ofList
    ((name.toList.filter fun c => !(c == ' ' || c == '-' || c == '_')).map Char.toLower)
  match Text.after "is" name with
  | some rest => if name = "isc" then name else rest
  | Option.none => name

/-- The set of a general category. -/
def category? (name : String) : Option CharSet :=
  match loose name with
  | "any" => some all
  | "ascii" => some ⟨[(0, 0x7F)]⟩
  | "assigned" => some assigned
  | "cn" | "unassigned" => some assigned.complement
  | "c" | "other" =>
    some (assigned.complement.union
      (ofLines (Text.Category.control ++ Text.Category.format ++ Text.Category.privateUse)))
  | name =>
    (categories.find? fun (names, _) => names.contains name).map fun (_, parts) =>
      ofRanges (parts.flatMap Text.CodeRange.ofLines)

/-- The set of a script. -/
def script? (name : String) : Option CharSet :=
  (Text.Script.entries.find? fun entry =>
    loose entry.short == loose name || loose entry.long == loose name).map fun entry =>
      ofLines entry.ranges

/-- The set of a property that characters have or lack. -/
def binary? (name : String) : Option CharSet :=
  open Text.Category in
  match loose name with
  | "alpha" | "alphabetic" => some alphabetic
  | "lower" | "lowercase" => some (ofLines (lowercaseLetter ++ otherLowercase))
  | "upper" | "uppercase" => some (ofLines (uppercaseLetter ++ otherUppercase))
  | "wspace" | "whitespace" | "space" => some space
  | "joinc" | "joincontrol" => some ⟨[(0x200C, 0x200D)]⟩
  | "hex" | "hexdigit" =>
    some ⟨[(0x30, 0x39), (0x41, 0x46), (0x61, 0x66), (0xFF10, 0xFF19), (0xFF21, 0xFF26),
      (0xFF41, 0xFF46)]⟩
  | "ahex" | "asciihexdigit" => some ⟨[(0x30, 0x39), (0x41, 0x46), (0x61, 0x66)]⟩
  | _ => Option.none

/-- The set of a property given by its name alone. -/
def property? (name : String) : Option CharSet :=
  (binary? name).or ((category? name).or (script? name))

/-- The set of a property given by its name and a value. -/
def propertyValue? (name value : String) : Option CharSet :=
  match loose name with
  | "gc" | "generalcategory" => category? value
  | "sc" | "script" => script? value
  | _ => Option.none

end CharSet

end Transclusion.Pattern
