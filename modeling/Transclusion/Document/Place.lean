/-!
# Places in a document

A document is read as a list of characters with their lines and columns. Line ends are brought to
one form first: a carriage return, a line feed, both together and the next-line control become a
line feed, while the line and paragraph separators stay what they are.
-/

namespace Transclusion.Document

/-- A character with its position, counted from 0. -/
structure Place where
  char : Char
  line : Nat
  column : Nat
deriving DecidableEq, Repr, Inhabited

/-- The part of a document that is still to be read. -/
abbrev Places := List Place

/-- Whether a character may stand in a document at all. -/
def isAllowed (c : Char) : Bool :=
  let n := c.toNat
  n == 9 || n == 10 || n == 13 || (0x20 ≤ n && n ≤ 0x7E) || n == 0x85 || (0xA0 ≤ n && n ≤ 0xFFFD) ||
    0x10000 ≤ n

/-- Bring line ends to one form. -/
def normalize : List Char → List Char
  | [] => []
  | '\r' :: '\n' :: cs => '\n' :: normalize cs
  | c :: cs => (if c = '\r' ∨ c = '\x85' then '\n' else c) :: normalize cs

/-- Whether a character ends a line. -/
def isBreak (c : Char) : Bool := c == '\n' || c == '\u2028' || c == '\u2029'

/-- Whether a character is a blank inside a line. -/
def isBlank (c : Char) : Bool := c == ' ' || c == '\t'

/-- Whether a character separates words. -/
def isGap (c : Char) : Bool := isBlank c || isBreak c

/-- Number the characters of a text, from a line and a column on. -/
def numberFrom (line column : Nat) : List Char → Places
  | [] => []
  | c :: cs =>
    ⟨c, line, column⟩ ::
      if isBreak c then numberFrom (line + 1) 0 cs else numberFrom line (column + 1) cs

/-- A list without its first character if that is a byte order mark. -/
def dropMark : List Char → List Char
  | '\ufeff' :: cs => cs
  | cs => cs

/-- The places of a text, unless it has characters that may not stand in a document. A byte order
mark at the start is dropped; if another follows it, that one counts as a column. -/
def placesOf? (text : String) : Option Places :=
  if text.toList.all isAllowed then
    match numberFrom 0 0 (normalize (dropMark text.toList)) with
    | p :: ps => if p.char = '\ufeff' then some ps else some (p :: ps)
    | [] => some []
  else none

/-- Whether the character here is a blank. -/
def Place.isBlank (p : Place) : Bool := Document.isBlank p.char

/-- Whether the character here ends a line. -/
def Place.isBreak (p : Place) : Bool := Document.isBreak p.char

/-- Whether the character here separates words. -/
def Place.isGap (p : Place) : Bool := Document.isGap p.char

/-- Whether the next character satisfies a test; at the end none does. -/
def starts (test : Char → Bool) : Places → Bool
  | [] => false
  | p :: _ => test p.char

/-- Whether the next character is the given one. -/
def startsWith (c : Char) (ps : Places) : Bool := starts (· == c) ps

/-- Whether the next character separates words or there is none. -/
def atGap : Places → Bool
  | [] => true
  | p :: _ => p.isGap

/-- Whether the next character ends the line or there is none. -/
def atLineEnd : Places → Bool
  | [] => true
  | p :: _ => p.isBreak

/-- The column that is reached. -/
def columnOf : Places → Nat
  | [] => 0
  | p :: _ => p.column

/-- The characters of some places. -/
def charsOf (ps : Places) : List Char := ps.map (·.char)

/-- Whether one of the lines that delimit documents stands here: three times the same sign at the
start of a line. -/
def atDelimiter (sign : Char) : Places → Bool
  | a :: b :: c :: rest =>
    a.column == 0 && a.char == sign && b.char == sign && c.char == sign && atGap rest
  | _ => false

/-- Whether a document starts or ends here. -/
def atBoundary (ps : Places) : Bool := atDelimiter '-' ps || atDelimiter '.' ps

/-- Go to the end of the line. -/
def restOfLine (ps : Places) : Places := ps.dropWhile fun p => !p.isBreak

/-- Skip blanks and a comment, after which the line has to end; the rest starts with the line end.
-/
def endOfLine? (ps : Places) : Option Places :=
  let rest := ps.dropWhile Place.isBlank
  let rest := if startsWith '#' rest then restOfLine rest else rest
  if atLineEnd rest then some rest else none

end Transclusion.Document
