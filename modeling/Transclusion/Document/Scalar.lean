import Transclusion.Document.Place
import Transclusion.Text.CodeRange

/-!
# Scalars

The texts that a document holds. Plain and quoted scalars may run over several lines, which are
folded: a single line end becomes a space, and of several the first is dropped. Block scalars are
set off by their indentation; literal ones keep their line ends and folded ones fold them.
-/

namespace Transclusion.Document

/-- How a scalar is written. -/
inductive Style where
  | plain
  | quoted
  | literal
  | folded
deriving DecidableEq, Repr

namespace Scalar

/-- The line ends `breaks` after one line of text, folded. -/
def foldBreaks : List Char → List Char
  | ['\n'] => [' ']
  | '\n' :: breaks => breaks
  | breaks => breaks

/-- What a gap between words contributes: blanks in a line stand for themselves, and with line ends
only those count. -/
def foldGap (gap : List Char) : List Char :=
  if gap.any isBreak then foldBreaks (gap.filter isBreak) else gap

/-! ### Plain scalars -/

/-- The signs that end a plain scalar within brackets. -/
def inBrackets (c : Char) : Bool := ",[]\x7b\x7d".toList.contains c

/-- Read a run of characters of a plain scalar. A colon before a gap ends it, and within brackets
also the signs of flow collections; a colon before one of those is refused. -/
def plainRun (flow : Bool) : Places → Option (List Char × Places)
  | [] => some ([], [])
  | p :: ps =>
    if p.isGap then some ([], p :: ps)
    else if flow && p.char == ':' && starts (fun c => inBrackets c || c == '?') ps then none
    else if (p.char == ':' && atGap ps) || (flow && inBrackets p.char) then some ([], p :: ps)
    else (plainRun flow ps).map fun (cs, rest) => (p.char :: cs, rest)

/-- Whether a gap has a tab left of the margin after its first line end. -/
def tabInMargin (margin : Nat) (gap : Places) : Bool :=
  (gap.dropWhile fun p => !p.isBreak).any fun p => p.char == '\t' && p.column < margin

/-- Read a plain scalar after a gap. The flag tells that it is followed by a line end. Each step
takes at least one character. -/
def plainFrom (flow : Bool) (margin : Nat) :
    Nat → Places → Places → Option (List Char × Bool × Places)
  | 0, _, _ => none
  | fuel + 1, gap, ps =>
    let newLine := gap.any Place.isBreak
    if atBoundary ps || startsWith '#' ps then some ([], newLine, ps)
    else do
      let (run, rest) ← plainRun flow ps
      if run.isEmpty then some ([], newLine, rest)
      else
        let front := foldGap (charsOf gap) ++ run
        let gap := rest.takeWhile Place.isGap
        let rest := rest.dropWhile Place.isGap
        -- Without a gap the scalar has ended at a sign.
        if gap.isEmpty then some (front, false, rest)
        else if tabInMargin margin gap then none
        else if !flow && !rest.isEmpty && columnOf rest < margin then
          some (front, gap.any Place.isBreak, rest)
        else do
          let (more, newLine, rest) ← plainFrom flow margin fuel gap rest
          some (front ++ more, newLine, rest)

/-- Read a plain scalar; the flag tells that it is followed by a line end. -/
def plain? (flow : Bool) (margin : Nat) (ps : Places) : Option (List Char × Bool × Places) :=
  plainFrom flow margin (ps.length + 1) [] ps

/-! ### Quoted scalars -/

/-- The single characters that are written with a backslash. -/
def escapes : List (Char × Nat) :=
  [('0', 0), ('a', 7), ('b', 8), ('t', 9), ('\t', 9), ('n', 10), ('v', 11), ('f', 12), ('r', 13),
    ('e', 27), (' ', 0x20), ('\x22', 0x22), ('/', 0x2F), ('\\', 0x5C), ('N', 0x85), ('_', 0xA0),
    ('L', 0x2028), ('P', 0x2029)]

/-- The number of hexadecimal digits after a backslash and this character. -/
def escapeDigits? : Char → Option Nat
  | 'x' => some 2
  | 'u' => some 4
  | 'U' => some 8
  | _ => none

/-- Whether a character is a hexadecimal digit. -/
def isHexDigit (c : Char) : Bool :=
  c.isDigit || ('a' ≤ c && c ≤ 'f') || ('A' ≤ c && c ≤ 'F')

/-- The character that some hexadecimal digits stand for. -/
def codePoint? (digits : List Char) : Option Char :=
  let n := digits.foldl (fun n c => 16 * n + Text.CodeRange.digitValue c) 0
  if digits.all isHexDigit && decide n.isValidChar then some (Char.ofNat n) else none

/-- Read what follows a backslash within a line. -/
def escape? : Places → Option (Char × Places)
  | [] => none
  | p :: ps =>
    match escapeDigits? p.char with
    | some n =>
      if ps.length < n then none
      else (codePoint? (charsOf (ps.take n))).map fun c => (c, ps.drop n)
    | none => (escapes.find? fun (c, _) => c == p.char).map fun (_, n) => (Char.ofNat n, ps)

/-- Read a quoted scalar after its opening quote. Double quotes admit escapes, and a line end
after a backslash contributes nothing; between single quotes the quote itself is doubled. -/
def quotedFrom (double : Bool) : Nat → Places → Option (List Char × Places)
  | 0, _ => none
  | _ + 1, [] => none
  | fuel + 1, p :: ps =>
    let more := fun (front : List Char) (rest : Places) =>
      (quotedFrom double fuel rest).map fun (cs, rest) => (front ++ cs, rest)
    let afterGap := fun (front : List Char) (rest : Places) =>
      if atBoundary rest then none else more front rest
    if p.isGap then
      let gap := charsOf ((p :: ps).takeWhile Place.isGap)
      afterGap (foldGap gap) (ps.dropWhile Place.isGap)
    else if double then
      if p.char = '\x22' then some ([], ps)
      else if p.char = '\\' then
        if starts isBreak ps then
          let gap := charsOf (ps.tail.takeWhile Place.isGap)
          afterGap (gap.filter isBreak) (ps.tail.dropWhile Place.isGap)
        else do
          let (c, rest) ← escape? ps
          more [c] rest
      else more [p.char] ps
    else if p.char = '\x27' then
      if startsWith '\x27' ps then more ['\x27'] ps.tail else some ([], ps)
    else more [p.char] ps

/-- Read a quoted scalar after its opening quote. -/
def quoted? (double : Bool) (ps : Places) : Option (List Char × Places) :=
  quotedFrom double (ps.length + 1) ps

/-! ### Block scalars -/

/-- What becomes of the line ends at the end of a block scalar. -/
inductive Chomp where
  /-- All go. -/
  | strip
  /-- The first stays. -/
  | clip
  /-- All stay. -/
  | keep
deriving DecidableEq, Repr

/-- The chomping that a sign asks for. -/
def chomp? : Char → Option Chomp
  | '+' => some .keep
  | '-' => some .strip
  | _ => none

/-- An indentation digit at the start: how far, if there is one, and what follows; zero is
refused. -/
def indentDigit? (ps : Places) : Option (Option Nat × Places) :=
  match ps with
  | [] => some (none, [])
  | p :: rest =>
    if p.char = '0' then none
    else if p.char.isDigit then some (some (p.char.toNat - 48), rest)
    else some (none, ps)

/-- Read the header of a block scalar: chomping and indentation in either order. -/
def blockHeader? (ps : Places) : Option (Chomp × Option Nat × Places) :=
  match ps.head?.bind fun p => chomp? p.char with
  | some chomp => (indentDigit? ps.tail).map fun (n, rest) => (chomp, n, rest)
  | none => do
    let (n, rest) ← indentDigit? ps
    match n, rest.head?.bind fun p => chomp? p.char with
    | some n, some chomp => some (chomp, some n, rest.tail)
    | n, _ => some (.clip, n, rest)

/-- Skip spaces left of an indentation. -/
def skipIndent (indent : Nat) (ps : Places) : Places :=
  ps.dropWhile fun p => p.char == ' ' && p.column < indent

/-- Skip indentation and empty lines, whose line ends are collected; a tab in the indentation is
refused. -/
def emptyLines? (indent : Nat) : Nat → Places → Option (List Char × Places)
  | 0, _ => none
  | fuel + 1, ps =>
    match skipIndent indent ps with
    | [] => some ([], [])
    | p :: rest =>
      if p.char = '\t' ∧ p.column < indent then none
      else if p.isBreak then
        (emptyLines? indent fuel rest).map fun (cs, rest) => (p.char :: cs, rest)
      else some ([], p :: rest)

/-- The indentation of a block scalar that does not give it: the column of the first text, or of the
longest line of spaces before it. A tab in the indentation is refused. -/
def detectIndent? : Nat → Places → Option Nat
  | 0, _ => none
  | fuel + 1, ps =>
    match ps.dropWhile fun p => p.char == ' ' with
    | [] => some (((ps.getLast?).map (·.column + 1)).getD 0)
    | p :: rest =>
      if p.char = '\t' then none
      else if p.isBreak then (detectIndent? fuel rest).map (max p.column)
      else some p.column

/-- Read the lines of a block scalar. `ends` are the line end before this line and those of the
empty lines after it, and `blankBefore` tells whether the line before started with a blank; the
text comes with the line ends after its last line. -/
def blockLines (literal : Bool) (indent : Nat) :
    Nat → List Char → List Char → Bool → Places →
      Option (List Char × List Char × List Char × Places)
  | 0, _, _, _, _ => none
  | fuel + 1, lineEnd, empties, blankBefore, ps =>
    if ps.isEmpty || columnOf ps != indent then some ([], lineEnd, empties, ps)
    else do
      let blank := starts isBlank ps
      -- A line end between two lines of text becomes a space, unless one of them starts with a
      -- blank.
      let folds := !literal && lineEnd == ['\n'] && !blankBefore && !blank
      let joint :=
        if folds then if empties.isEmpty then [' '] else empties else lineEnd ++ empties
      let line := ps.takeWhile fun p => !p.isBreak
      let rest := restOfLine ps
      let lineEnd := charsOf (rest.take 1)
      let (empties, rest) ← emptyLines? indent (rest.length + 1) (rest.drop 1)
      let (more, tail) ← blockLines literal indent fuel lineEnd empties blank rest
      some (joint ++ charsOf line ++ more, tail)

/-- Read a block scalar after its indicator, below a collection with the given margin. -/
def block? (literal : Bool) (margin : Nat) (ps : Places) : Option (List Char × Places) := do
  let (chomp, increment, rest) ← blockHeader? ps
  let rest ← endOfLine? rest
  let rest := rest.drop 1
  let fuel := rest.length + 1
  -- A digit counts from the indentation of the collection around.
  let indent ← match increment with
    | some n => some (if margin = 0 then n else margin - 1 + n)
    | none => (detectIndent? fuel rest).map fun n => max n (max margin 1)
  let (empties, rest) ← emptyLines? indent fuel rest
  let (text, lineEnd, empties, rest) ← blockLines literal indent fuel [] empties false rest
  let ending := match chomp with
    | .strip => []
    | .clip => lineEnd
    | .keep => lineEnd ++ empties
  some (text ++ ending, rest)

end Scalar

end Transclusion.Document
