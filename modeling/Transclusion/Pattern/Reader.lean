import Transclusion.Pattern.Expr

/-!
# The notation of patterns

Reading the text of a pattern into an expression. Nothing is said about why a text is no pattern:
an unreadable one gives `none`. Every step takes at least one character, so the length of the text
bounds the number of steps.
-/

namespace Transclusion.Pattern

/-- Switches that change how the following text is read. -/
structure Flags where
  ignoreCase : Bool := false
  multiLine : Bool := false
  dotMatchesNewline : Bool := false
  swapGreed : Bool := false
  crlf : Bool := false
  ignoreBlanks : Bool := false
  unicode : Bool := true
deriving DecidableEq, Repr, Inhabited

/-- The groups met so far: how many capture, and the names of the named ones. -/
structure Groups where
  count : Nat
  names : List (String × Nat)
deriving DecidableEq, Repr, Inhabited

/-- How deeply a list of things nests: several of them count as a thing around each. -/
def nesting : List Nat → Nat
  | [] => 0
  | [height] => height
  | heights => heights.foldl max 0 + 1

/-- What a backslash sequence stands for. -/
inductive Escape where
  | literal (c : Char)
  /-- A character given by its code. -/
  | code (c : Char)
  | set (s : CharSet)
  | anchor (a : Anchor)

namespace Reader

/-- Drop blanks and comments; the flag tells whether a comment is open. -/
def dropBlanks : Bool → List Char → List Char
  | _, [] => []
  | true, c :: cs => dropBlanks (c != '\n') cs
  | false, c :: cs =>
    if Text.isBlank c then dropBlanks false cs
    else if c == '#' then dropBlanks true cs
    else c :: cs

/-- Drop blanks and comments where they do not count. -/
def skip (flags : Flags) (cs : List Char) : List Char :=
  if flags.ignoreBlanks then dropBlanks false cs else cs

/-- Close a set under case, among ASCII letters only outside Unicode mode. -/
def fold (flags : Flags) (s : CharSet) : CharSet :=
  if !flags.ignoreCase then s
  else if flags.unicode then s.foldCase
  else
    let shifted := s.ranges.flatMap fun (low, high) =>
      (Text.Folding.classes.filter fun cls =>
        cls.any fun n => n < 0x80 && low ≤ n && n ≤ high).flatMap fun cls =>
          (cls.filter (· < 0x80)).map fun n => (n, n)
    .ofRanges (s.ranges ++ shifted)

/-- The complement of a set, among single bytes outside Unicode mode. -/
def negate (flags : Flags) (s : CharSet) : CharSet :=
  if flags.unicode then s.complement else s.complement.inter ⟨[(0, 0xFF)]⟩

/-- The complement if asked for. -/
def negateIf (negated : Bool) (flags : Flags) (s : CharSet) : CharSet :=
  if negated then negate flags s else s

/-- The expression for one character of a set; outside Unicode mode it must be ASCII. -/
def oneOf? (flags : Flags) (s : CharSet) : Option Expr :=
  if flags.unicode || s.isAscii then some (.oneOf s) else none

/-- Whether a character may be escaped to stand for itself. -/
def isEscapable (c : Char) : Bool :=
  c.toNat < 0x80 && !c.isAlphanum && c != '<' && c != '>'

/-- Whether a character is a hexadecimal digit. -/
def isHexDigit (c : Char) : Bool :=
  ('0' ≤ c && c ≤ '9') || ('a' ≤ c && c ≤ 'f') || ('A' ≤ c && c ≤ 'F')

/-- The character with a code given by digits, if there is one. -/
def charOfDigits? (digits : List Char) : Option Char :=
  let n := Text.CodeRange.value digits
  if digits ≠ [] ∧ n.isValidChar then some (Char.ofNat n) else none

/-- Read exactly `count` hexadecimal digits. -/
def hexDigits (flags : Flags) : Nat → List Char → Option (List Char × List Char)
  | 0, cs => some ([], cs)
  | _ + 1, [] => none
  | count + 1, c :: cs => do
    guard (isHexDigit c)
    let (digits, rest) ← hexDigits flags count (skip flags cs)
    some (c :: digits, rest)

/-- Read hexadecimal digits up to a closing brace. -/
def bracedDigits (flags : Flags) : Nat → List Char → Option (List Char × List Char)
  | 0, _ => none
  | _ + 1, [] => none
  | fuel + 1, c :: cs =>
    if c == '\x7d' then some ([], cs)
    else do
      guard (isHexDigit c)
      let (digits, rest) ← bracedDigits flags fuel (skip flags cs)
      some (c :: digits, rest)

/-- Read a character code: `count` digits, or any number in braces. -/
def charCode (flags : Flags) (count : Nat) (cs : List Char) : Option (Char × List Char) := do
  let cs := skip flags cs
  let (digits, rest) ← match cs with
    | '\x7b' :: more => bracedDigits flags (more.length + 1) (skip flags more)
    | _ => hexDigits flags count cs
  some (← charOfDigits? digits, rest)

/-- Read up to a closing brace. -/
def bracedName (flags : Flags) : Nat → List Char → Option (List Char × List Char)
  | 0, _ => none
  | _ + 1, [] => none
  | fuel + 1, c :: cs =>
    if c == '\x7d' then some ([], cs)
    else do
      let (name, rest) ← bracedName flags fuel (skip flags cs)
      some (c :: name, rest)

/-- What stands before and after the first `!=`. -/
def cutUnequal : List Char → Option (List Char × List Char)
  | [] => none
  | '!' :: '=' :: cs => some ([], cs)
  | c :: cs => (cutUnequal cs).map fun (before, after) => (c :: before, after)

/-- The set that a property in braces denotes. -/
def property? (text : List Char) : Option CharSet :=
  match cutUnequal text with
  | some (name, value) =>
    (CharSet.propertyValue? (String.ofList name) (String.ofList value)).map CharSet.complement
  | none =>
    match (Text.cutChars ':' text).or (Text.cutChars '=' text) with
    | some (name, value) => CharSet.propertyValue? (String.ofList name) (String.ofList value)
    | none => CharSet.property? (String.ofList text)

/-- Read a property after `\p` or `\P`. -/
def propertySet (flags : Flags) (negated : Bool) (cs : List Char) :
    Option (CharSet × List Char) := do
  guard flags.unicode
  match skip flags cs with
  | [] => none
  | '\x7b' :: more =>
    let (name, rest) ← bracedName flags (more.length + 1) (skip flags more)
    let set ← property? name
    some (negateIf negated flags (fold flags set), rest)
  | c :: more =>
    guard (c != '\\')
    let set ← CharSet.property? (String.singleton c)
    some (negateIf negated flags (fold flags set), skip flags more)

/-- The kind of word boundary named in braces. -/
def boundaryNamed? (ascii : Bool) : String → Option Anchor
  | "start" => some (.wordStart ascii)
  | "end" => some (.wordEnd ascii)
  | "start-half" => some (.wordStartHalf ascii)
  | "end-half" => some (.wordEndHalf ascii)
  | _ => none

/-- Read what follows `\b`: a kind of boundary in braces, or nothing. -/
def wordBoundary (flags : Flags) (cs : List Char) : Option (Anchor × List Char) :=
  let ascii := !flags.unicode
  let inName := fun (c : Char) => c.isAlpha || c == '-'
  match cs with
  | '\x7b' :: more =>
    match skip flags more with
    | [] => none
    | c :: _ =>
      if !inName c then some (.wordBoundary ascii, cs)
      else do
        let (name, rest) ← bracedName flags (more.length + 1) (skip flags more)
        guard (name.all inName)
        some (← boundaryNamed? ascii (String.ofList name), rest)
  | _ => some (.wordBoundary ascii, cs)

/-- A class such as `\d`, negated for the upper-case letter. -/
def perlClass (flags : Flags) (negated : Bool) (unicode ascii : CharSet) : Escape :=
  .set (negateIf negated flags (if flags.unicode then unicode else ascii))

/-- Read what follows a backslash. -/
def escape (flags : Flags) : List Char → Option (Escape × List Char)
  | [] => none
  | c :: cs =>
    match c with
    | 'x' => (charCode flags 2 cs).map fun (c, rest) => (.code c, rest)
    | 'u' => (charCode flags 4 cs).map fun (c, rest) => (.code c, rest)
    | 'U' => (charCode flags 8 cs).map fun (c, rest) => (.code c, rest)
    | 'p' => (propertySet flags false cs).map fun (s, rest) => (.set s, rest)
    | 'P' => (propertySet flags true cs).map fun (s, rest) => (.set s, rest)
    | 'd' => some (perlClass flags false .digit .asciiDigit, cs)
    | 'D' => some (perlClass flags true .digit .asciiDigit, cs)
    | 's' => some (perlClass flags false .space .asciiSpace, cs)
    | 'S' => some (perlClass flags true .space .asciiSpace, cs)
    | 'w' => some (perlClass flags false .word .asciiWord, cs)
    | 'W' => some (perlClass flags true .word .asciiWord, cs)
    | 'a' => some (.literal '\x07', cs)
    | 'f' => some (.literal '\x0c', cs)
    | 't' => some (.literal '\t', cs)
    | 'n' => some (.literal '\n', cs)
    | 'r' => some (.literal '\r', cs)
    | 'v' => some (.literal '\x0b', cs)
    | 'A' => some (.anchor .textStart, cs)
    | 'z' => some (.anchor .textEnd, cs)
    | 'b' => (wordBoundary flags cs).map fun (a, rest) => (.anchor a, rest)
    | 'B' => some (.anchor (.notWordBoundary !flags.unicode), cs)
    | '<' => some (.anchor (.wordStart !flags.unicode), cs)
    | '>' => some (.anchor (.wordEnd !flags.unicode), cs)
    | c => if isEscapable c then some (.literal c, cs) else none

/-! ### Bracketed classes -/

/-- An operator between the operands of a class. -/
inductive SetOp where
  | inter
  | diff
  | symmDiff

/-- Apply an operator to two operands, which are first closed under case. -/
def SetOp.apply (flags : Flags) (op : SetOp) (left right : CharSet) : CharSet :=
  let left := fold flags left
  let right := fold flags right
  match op with
  | inter => left.inter right
  | diff => left.diff right
  | symmDiff => left.symmDiff right

/-- A part of a class with how deeply it nests. -/
structure Operand where
  set : CharSet
  height : Nat

/-- The members of a class read so far, as a set and by how deeply each nests. -/
structure Members where
  set : CharSet
  heights : List Nat

namespace Members

/-- No members. -/
def none : Members := ⟨.none, []⟩

/-- Add a member. -/
def add (m : Members) (set : CharSet) (height : Nat) : Members :=
  ⟨m.set.union set, height :: m.heights⟩

/-- The members as one operand. -/
def operand (m : Members) : Operand := ⟨m.set, nesting m.heights⟩

end Members

/-- Close the operand being read over a pending operator. -/
def closeOperand (flags : Flags) (pending : Option (Operand × SetOp)) (members : Members) :
    Operand :=
  match pending with
  | none => members.operand
  | some (left, op) =>
    ⟨op.apply flags left.set members.set, max left.height members.operand.height + 1⟩

/-- Read a class such as `[:alpha:]` after its first bracket. -/
def asciiClass? (flags : Flags) (cs : List Char) : Option (CharSet × List Char) :=
  match cs with
  | ':' :: more =>
    let (negated, more) := match more with
      | '^' :: rest => (true, rest)
      | _ => (false, more)
    match Text.cutChars ':' more with
    | some (name, ']' :: rest) =>
      (CharSet.asciiClass? (String.ofList name)).map fun s =>
        (negateIf negated flags (fold flags s), rest)
    | _ => none
  | _ => none

/-- One member of a class before it is known whether a range follows. -/
def classItem (flags : Flags) : List Char → Option (Escape × List Char)
  | [] => none
  | '\\' :: cs => escape flags cs
  | c :: cs => some (.literal c, cs)

/-- The character that an escape stands for, if it stands for one. -/
def Escape.char? : Escape → Option Char
  | .literal c => some c
  | .code c => some c
  | _ => none

/-- Whether a hyphen at the head of the list starts a range. -/
def startsRange (flags : Flags) : List Char → Bool
  | '-' :: cs =>
    match skip flags cs with
    | ']' :: _ => false
    | '-' :: _ => false
    | _ => true
  | _ => false

/-- Read a member or a range of a class. -/
def classRange (flags : Flags) (cs : List Char) : Option (CharSet × List Char) := do
  let (item, rest) ← classItem flags cs
  let rest := skip flags rest
  -- A hyphen before the closing bracket or before another hyphen makes no range.
  if startsRange flags rest then
    let (last, rest) ← classItem flags (skip flags rest.tail)
    let low ← Escape.char? item
    let high ← Escape.char? last
    guard (low ≤ high)
    some (⟨[(low.toNat, high.toNat)]⟩, rest)
  else
    match item with
    | .set s => some (s, rest)
    | .anchor _ => none
    | item => do some (.single (← Escape.char? item), rest)

/-- The hyphens at the start of a class, which stand for themselves, and what follows them. -/
def leadingHyphens (flags : Flags) : Nat → List Char → Members × List Char
  | 0, cs => (.none, cs)
  | fuel + 1, '-' :: cs =>
    let (members, rest) := leadingHyphens flags fuel (skip flags cs)
    (members.add (.single '-') 0, rest)
  | _ + 1, cs => (.none, cs)

/-- The start of a class after its bracket: negation, then hyphens or a closing bracket that stand
for themselves. -/
def classStart (flags : Flags) (cs : List Char) : Bool × Members × List Char :=
  let cs := skip flags cs
  let (negated, cs) := match cs with
    | '^' :: rest => (true, skip flags rest)
    | _ => (false, cs)
  let (hyphens, cs) := leadingHyphens flags (cs.length + 1) cs
  if hyphens.heights ≠ [] then (negated, hyphens, cs)
  else match cs with
    | ']' :: rest => (negated, Members.none.add (.single ']') 0, skip flags rest)
    | _ => (negated, .none, cs)

/-- Read the members of a class up to its closing bracket. -/
def classBody (flags : Flags) : Nat → Option (Operand × SetOp) → Members → List Char →
    Option (Operand × List Char)
  | 0, _, _, _ => none
  | fuel + 1, pending, members, cs =>
    match skip flags cs with
    | [] => none
    | ']' :: rest => some (closeOperand flags pending members, rest)
    | '&' :: '&' :: rest =>
      classBody flags fuel (some (closeOperand flags pending members, .inter)) .none rest
    | '-' :: '-' :: rest =>
      classBody flags fuel (some (closeOperand flags pending members, .diff)) .none rest
    | '~' :: '~' :: rest =>
      classBody flags fuel (some (closeOperand flags pending members, .symmDiff)) .none rest
    | '[' :: rest =>
      -- What does not read as a named class is a class within the class.
      match asciiClass? flags rest with
      | some (s, rest) => classBody flags fuel pending (members.add s 0) rest
      | none => do
        let (negated, first, rest) := classStart flags rest
        let (inner, rest) ← classBody flags fuel none first rest
        let s := negateIf negated flags (fold flags inner.set)
        classBody flags fuel pending (members.add s (inner.height + 1)) rest
    | cs => do
      let (s, rest) ← classRange flags cs
      classBody flags fuel pending (members.add s 0) rest

/-- Read a class after its opening bracket. -/
def bracketed (flags : Flags) (cs : List Char) : Option (Operand × List Char) := do
  let (negated, first, rest) := classStart flags cs
  let (inner, rest) ← classBody flags (rest.length + 1) none first rest
  some (⟨negateIf negated flags (fold flags inner.set), inner.height + 1⟩, rest)

/-! ### Repetitions, flags and groups -/

/-- Read a decimal number between optional blanks. -/
def decimal (cs : List Char) : Option (Nat × List Char) :=
  let cs := cs.dropWhile Text.isBlank
  let digits := cs.takeWhile Char.isDigit
  let n := Text.decimalValue digits
  if digits = [] ∨ Nat.pow 2 32 ≤ n then none
  else some (n, (cs.dropWhile Char.isDigit).dropWhile Text.isBlank)

/-- Read a counted repetition after its opening brace. -/
def counts (flags : Flags) (cs : List Char) : Option (Nat × Option Nat × List Char) := do
  let (least, rest) ← decimal (skip flags cs)
  match rest with
  | '\x7d' :: rest => some (least, some least, rest)
  | ',' :: rest =>
    match skip flags rest with
    | '\x7d' :: rest => some (least, none, rest)
    | rest =>
      let (most, rest) ← decimal rest
      match rest with
      | '\x7d' :: rest =>
        guard (least ≤ most)
        some (least, some most, rest)
      | _ => none
  | _ => none

/-- An item of a pattern, `none` for a directive, with how deeply it nests. -/
structure Piece where
  expr : Option Expr
  height : Nat

/-- Repeat the last item read; a directive cannot be repeated. -/
def repeatLast (flags : Flags) (least : Nat) (most : Option Nat) (lazy : Bool) :
    List Piece → Option (List Piece)
  | ⟨some e, height⟩ :: items =>
    some (⟨some (.times least most (lazy == flags.swapGreed) e), height + 1⟩ :: items)
  | _ => none

/-- Whether a question mark makes the preceding repetition lazy. -/
def laziness : List Char → Bool × List Char
  | '?' :: cs => (true, cs)
  | cs => (false, cs)

/-- Set the flag that a letter names. -/
def setFlag (value : Bool) (flags : Flags) : Char → Option Flags
  | 'i' => some { flags with ignoreCase := value }
  | 'm' => some { flags with multiLine := value }
  | 's' => some { flags with dotMatchesNewline := value }
  | 'U' => some { flags with swapGreed := value }
  | 'R' => some { flags with crlf := value }
  | 'x' => some { flags with ignoreBlanks := value }
  | 'u' => some { flags with unicode := value }
  | _ => none

/-- Read flags up to a colon or a closing parenthesis, which is returned. No letter may be repeated,
and a minus sign must be followed by one. -/
def flagList : Nat → Bool → List Char → Flags → List Char → Option (Flags × Bool × List Char)
  | 0, _, _, _, _ => none
  | _ + 1, _, _, _, [] => none
  | fuel + 1, value, seen, flags, c :: cs =>
    match c with
    | ':' => if seen.head? = some '-' then none else some (flags, true, cs)
    | ')' => if seen.head? = some '-' ∨ seen = [] then none else some (flags, false, cs)
    | '-' => if '-' ∈ seen then none else flagList fuel false ('-' :: seen) flags cs
    | c => do
      guard (c ∉ seen)
      flagList fuel value (c :: seen) (← setFlag value flags c) cs

/-- Whether a character may start, or continue, the name of a group. -/
def inGroupName (first : Bool) (c : Char) : Bool :=
  c == '_' || CharSet.alphabetic.contains c ||
    (!first && (c == '.' || c == '[' || c == ']' || CharSet.number.contains c))

/-- Read the name of a group up to its closing angle bracket. -/
def groupName (cs : List Char) : Option (String × List Char) := do
  let (name, rest) ← Text.cutChars '>' cs
  match name with
  | [] => none
  | c :: more =>
    guard (inGroupName true c && more.all (inGroupName false))
    some (String.ofList name, rest)

/-- How a group begins. -/
inductive GroupStart where
  /-- Flags for the rest of the enclosing group. -/
  | directive (flags : Flags)
  /-- A group that does not capture. -/
  | plain (flags : Flags)
  /-- A group that captures, with its name if it has one. -/
  | capturing (name : Option String)

/-- Read what follows an opening parenthesis. Look-around is not part of the notation. -/
def groupStart (flags : Flags) (cs : List Char) : Option (GroupStart × List Char) :=
  match skip flags cs with
  | '?' :: 'P' :: '<' :: rest => (groupName rest).map fun (n, rest) => (.capturing (some n), rest)
  | '?' :: '<' :: rest => (groupName rest).map fun (n, rest) => (.capturing (some n), rest)
  | '?' :: rest =>
    (flagList (rest.length + 1) true [] flags rest).map fun (flags, opens, rest) =>
      (if opens then .plain flags else .directive flags, rest)
  | rest => some (.capturing none, rest)

/-- The expression that an escape stands for outside classes. -/
def escapeExpr (flags : Flags) : Escape → Option Expr
  | .literal c => some (.oneOf (fold flags (.single c)))
  | .code c =>
    if flags.unicode || c.toNat < 0x80 then some (.oneOf (fold flags (.single c))) else none
  | .set s => oneOf? flags s
  | .anchor a => some (.anchor a)

/-- The expression for a dot. -/
def dot (flags : Flags) : Option Expr :=
  if !flags.unicode then none
  else if flags.dotMatchesNewline then some (.oneOf .all)
  else if flags.crlf then some (.oneOf (CharSet.complement ⟨[(10, 10), (13, 13)]⟩))
  else some (.oneOf (CharSet.complement ⟨[(10, 10)]⟩))

/-- The condition that a circumflex stands for. -/
def circumflex (flags : Flags) : Anchor :=
  if !flags.multiLine then .textStart else if flags.crlf then .crlfLineStart else .lineStart

/-- The condition that a dollar sign stands for. -/
def dollar (flags : Flags) : Anchor :=
  if !flags.multiLine then .textEnd else if flags.crlf then .crlfLineEnd else .lineEnd

/-- An expression with how deeply its notation nests. -/
structure Nested where
  expr : Expr
  height : Nat

/-- The items of one alternative, read in reverse. -/
def concat (items : List Piece) : Nested :=
  ⟨Expr.seqAll (items.reverse.filterMap (·.expr)), nesting (items.map (·.height))⟩

/-- The alternatives of a group, read in reverse. -/
def alternatives (branches : List Nested) : Nested :=
  ⟨Expr.altAll (branches.reverse.map (·.expr)), nesting (branches.map (·.height))⟩

/-- The deepest nesting that is read: groups, repetitions, classes, and what has several parts. -/
def nestingLimit : Nat := 250

/-- Read up to the end of the text or a closing parenthesis. `branches` and `items` hold, in
reverse, the finished alternatives and the items of the current one. -/
def body : Nat → Flags → Groups → List Nested → List Piece → List Char →
    Option (Nested × Groups × List Char)
  | 0, _, _, _, _, _ => none
  | fuel + 1, flags, groups, branches, items, cs =>
    let add := fun (e : Expr) (height : Nat) (rest : List Char) =>
      body fuel flags groups branches (⟨some e, height⟩ :: items) rest
    match skip flags cs with
    | [] => some (alternatives (concat items :: branches), groups, [])
    | ')' :: rest => some (alternatives (concat items :: branches), groups, ')' :: rest)
    | '|' :: rest => body fuel flags groups (concat items :: branches) [] rest
    | '(' :: rest => do
      let (start, rest) ← groupStart flags rest
      match start with
      -- Flags hold to the end of the group around them, so nothing is opened.
      | .directive flags => body fuel flags groups branches (⟨none, 0⟩ :: items) rest
      | .plain inner =>
        let (e, groups, rest) ← body fuel inner groups [] [] rest
        match rest with
        | ')' :: rest =>
          body fuel flags groups branches (⟨some e.expr, e.height + 1⟩ :: items) rest
        | _ => none
      | .capturing name =>
        -- Groups are numbered by their opening parentheses, and no name is given twice.
        let index := groups.count + 1
        guard (name.all fun n => groups.names.all fun (m, _) => m != n)
        let named := match name with
          | some n => groups.names ++ [(n, index)]
          | none => groups.names
        let (e, groups, rest) ← body fuel flags ⟨index, named⟩ [] [] rest
        match rest with
        | ')' :: rest =>
          let group := Expr.capture index e.expr
          body fuel flags groups branches (⟨some group, e.height + 1⟩ :: items) rest
        | _ => none
    | '?' :: rest =>
      let (lazy, rest) := laziness rest
      do body fuel flags groups branches (← repeatLast flags 0 (some 1) lazy items) rest
    | '*' :: rest =>
      let (lazy, rest) := laziness rest
      do body fuel flags groups branches (← repeatLast flags 0 none lazy items) rest
    | '+' :: rest =>
      let (lazy, rest) := laziness rest
      do body fuel flags groups branches (← repeatLast flags 1 none lazy items) rest
    | '\x7b' :: rest => do
      let (least, most, rest) ← counts flags rest
      let (lazy, rest) := laziness (skip flags rest)
      body fuel flags groups branches (← repeatLast flags least most lazy items) rest
    | '[' :: rest => do
      let (s, rest) ← bracketed flags rest
      add (← oneOf? flags s.set) s.height rest
    | '\\' :: rest => do
      let (e, rest) ← escape flags rest
      add (← escapeExpr flags e) 0 rest
    | '.' :: rest => do add (← dot flags) 0 rest
    | '^' :: rest => add (.anchor (circumflex flags)) 0 rest
    | '$' :: rest => add (.anchor (dollar flags)) 0 rest
    | c :: rest => add (.oneOf (fold flags (.single c))) 0 rest

end Reader

/-- Read a pattern; the names of its groups come with their numbers. -/
def Expr.read? (text : String) : Option (Expr × Groups) :=
  match Reader.body (text.toList.length + 1) {} ⟨0, []⟩ [] [] text.toList with
  | some (e, groups, []) => if e.height ≤ Reader.nestingLimit then some (e.expr, groups) else none
  | _ => none

end Transclusion.Pattern
