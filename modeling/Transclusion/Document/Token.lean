import Transclusion.Document.Property

/-!
# Tokens

A document is cut into tokens: signs, scalars, and the beginnings and ends of collections that are
written by indentation alone. That a scalar is a key shows only at the colon after it; a place
where a key may have started is remembered, and the tokens of a key are put there afterwards.

Collections are delimited by margins: the margin of a collection is one more than the column of its
items, and the margin outside all collections is 0.
-/

namespace Transclusion.Document

/-- The words of a document. -/
inductive Token where
  | directive (d : Directive)
  | documentStart
  | documentEnd
  | blockSequenceStart
  | blockMappingStart
  | blockEnd
  | flowSequenceStart
  | flowSequenceEnd
  | flowMappingStart
  | flowMappingEnd
  | blockEntry
  | flowEntry
  | key
  | value
  | aliasOf (name : String)
  | anchor (name : String)
  | tag (t : TagText)
  | scalar (text : String) (style : Style)
deriving DecidableEq, Repr

/-- A place where a key may have started. -/
structure KeyStart where
  /-- Nothing but a key may stand there. -/
  required : Bool
  /-- The number of tokens before it. -/
  number : Nat
  line : Nat
  column : Nat
deriving Repr

/-- The longest key, in characters. -/
def maxKeyLength : Nat := 1024

/-- The state of cutting a document into tokens. -/
structure Lexer where
  places : Places
  /-- The margin of the innermost collection. -/
  margin : Nat
  /-- The margins of the collections around it. -/
  outer : List Nat
  /-- Whether a key may start here. -/
  keyAllowed : Bool
  /-- The key that may have started at this level of brackets, and those of the levels around it. -/
  pending : Option KeyStart
  enclosing : List (Option KeyStart)
  tokens : Array Token

namespace Lexer

/-- Whether brackets are open. -/
def inFlow (x : Lexer) : Bool := !x.enclosing.isEmpty

/-- Add a token. -/
def push (x : Lexer) (t : Token) : Lexer := { x with tokens := x.tokens.push t }

/-- Go on at another place. -/
def goto (x : Lexer) (ps : Places) : Lexer := { x with places := ps }

/-- Skip one character. -/
def skip (x : Lexer) : Lexer := x.goto x.places.tail

/-- Say whether a key may start here. -/
def allowKey (x : Lexer) (allowed : Bool) : Lexer := { x with keyAllowed := allowed }

/-- Open a collection at a column, with its token after `number` others, unless one is open there.
-/
def openAt (x : Lexer) (column number : Nat) (t : Token) : Lexer :=
  if !x.inFlow && x.margin ≤ column then
    { x with
      outer := x.margin :: x.outer
      margin := column + 1
      tokens := x.tokens.insertIdxIfInBounds number t }
  else x

/-- Open a collection at this column. -/
def openHere (x : Lexer) (t : Token) : Lexer := x.openAt (columnOf x.places) x.tokens.size t

/-- Close the collections whose margins exceed a limit; each step closes one. -/
def closeMargins (limit : Nat) (margin : Nat) : List Nat → Nat × List Nat × List Token
  | [] => (margin, [], [])
  | outer :: more =>
    if limit < margin then
      let (m, rest, ends) := closeMargins limit outer more
      (m, rest, .blockEnd :: ends)
    else (margin, outer :: more, [])

/-- Close the collections whose margins exceed a limit. -/
def close (x : Lexer) (limit : Nat) : Lexer :=
  if x.inFlow then x
  else
    let (margin, outer, ends) := closeMargins limit x.margin x.outer
    { x with margin := margin, outer := outer, tokens := x.tokens ++ ends.toArray }

/-- Give up the key that may have started; a required one may not be given up. -/
def dropKey? (x : Lexer) : Option Lexer :=
  if (x.pending.map (·.required)).getD false then none else some { x with pending := none }

/-- Remember that a key may start here. -/
def startKey? (x : Lexer) : Option Lexer :=
  if x.keyAllowed then do
    let place ← x.places.head?
    let x ← x.dropKey?
    some { x with
      pending := some ⟨!x.inFlow && x.margin == place.column + 1, x.tokens.size, place.line,
        place.column⟩ }
  else some x

/-- Whether a key that started there may not end here: keys stay on a line and below a length. -/
def isStale (here : Place) (k : KeyStart) : Bool :=
  k.line < here.line || k.column + maxKeyLength < here.column

/-- Give up the keys that have become too long; a required one may not be given up. -/
def dropStale? (x : Lexer) : Option Lexer :=
  match x.places.head? with
  | none => some x
  | some here =>
    let keep := fun (k : Option KeyStart) => k.filter fun k => !isStale here k
    -- A required key that has no colon is a fault, not just no key.
    let isLost := fun (k : Option KeyStart) => k.any fun k => isStale here k && k.required
    if (x.pending :: x.enclosing).any isLost then none
    else some { x with pending := keep x.pending, enclosing := x.enclosing.map keep }

/-- Skip blanks, comments and line ends. Outside brackets a key may start on a new line, and then
a tab is no blank. Each step takes at least one character. -/
def skipGap : Nat → Lexer → Lexer
  | 0, x => x
  | fuel + 1, x =>
    let skippable := fun (p : Place) =>
      p.char == ' ' || ((x.inFlow || !x.keyAllowed) && p.char == '\t')
    let ps := x.places.dropWhile skippable
    let ps := if startsWith '#' ps then restOfLine ps else ps
    if starts isBreak ps then skipGap fuel ((x.goto ps.tail).allowKey (x.keyAllowed || !x.inFlow))
    else x.goto ps

/-- Open brackets. -/
def openFlow? (x : Lexer) (t : Token) : Option Lexer := do
  let x ← x.startKey?
  let x := { x with pending := none, enclosing := x.pending :: x.enclosing }
  some ((x.push t).allowKey true).skip

/-- Close brackets. -/
def closeFlow? (x : Lexer) (t : Token) : Option Lexer := do
  let x ← x.dropKey?
  let x := match x.enclosing with
    | [] => x
    | k :: more => { x with pending := k, enclosing := more }
  some ((x.push t).allowKey false).skip

/-- Read a sign that starts an item: outside brackets only where a key may start. -/
def entry? (x : Lexer) : Option Lexer := do
  let x ← if x.inFlow then some x
    else if x.keyAllowed then some (x.openHere .blockSequenceStart) else none
  let x ← x.dropKey?
  some ((x.push .blockEntry).allowKey true).skip

/-- Read a sign that starts a key. -/
def key? (x : Lexer) : Option Lexer := do
  let x ← if x.inFlow then some x
    else if x.keyAllowed then some (x.openHere .blockMappingStart) else none
  let x ← x.dropKey?
  some ((x.push .key).allowKey !x.inFlow).skip

/-- Read a sign that starts a value. If a key may have started before, it did. -/
def value? (x : Lexer) : Option Lexer :=
  match x.pending with
  | some k =>
    -- The key and, if it is the first of its mapping, the mapping begin back where the key began.
    let x := { x with tokens := x.tokens.insertIdxIfInBounds k.number .key, pending := none }
    let x := x.openAt k.column k.number .blockMappingStart
    some ((x.push .value).allowKey false).skip
  | none => do
    let x ← if x.inFlow then some x
      else if x.keyAllowed then some (x.openHere .blockMappingStart) else none
    some ((x.push .value).allowKey !x.inFlow).skip

/-- Read one of the lines that delimit documents. -/
def boundary? (x : Lexer) (t : Token) : Option Lexer := do
  let x ← (x.close 0).dropKey?
  some ((x.push t).allowKey false |>.goto (x.places.drop 3))

/-- Read a directive. -/
def directive? (x : Lexer) : Option Lexer := do
  let x ← (x.close 0).dropKey?
  let (d, rest) ← Document.directive? x.places.tail
  some ((x.push (.directive d)).allowKey false |>.goto rest)

/-- Read something that may be a key, or stand before one. -/
def item? (x : Lexer) (read : Places → Option (Token × Places)) : Option Lexer := do
  let x ← x.startKey?
  let (t, rest) ← read x.places
  some ((x.push t).allowKey false |>.goto rest)

/-- Read a plain scalar; after a line end a key may start. -/
def plain? (x : Lexer) : Option Lexer := do
  let x ← x.startKey?
  let (text, newLine, rest) ← Scalar.plain? x.inFlow x.margin x.places
  some ((x.push (.scalar (String.ofList text) .plain)).allowKey newLine |>.goto rest)

/-- Read a block scalar. -/
def block? (x : Lexer) (literal : Bool) : Option Lexer := do
  let x ← x.dropKey?
  let (text, rest) ← Scalar.block? literal x.margin x.places.tail
  let style := if literal then Style.literal else .folded
  some ((x.push (.scalar (String.ofList text) style)).allowKey true |>.goto rest)

/-- Whether a plain scalar can start with a character that `next` follows. -/
def startsPlain (flow : Bool) (c : Char) (next : Places) : Bool :=
  if c = '-' then !starts isBlank next
  else if c = '?' ∨ c = ':' then !flow && !atGap next
  else !",[]\x7b\x7d#&*!|>\x27\x22%@\x60".toList.contains c

/-- Read the next token. -/
def next? (x : Lexer) (p : Place) (ps : Places) : Option Lexer :=
  if p.column = 0 ∧ p.char = '%' then x.directive?
  else if atDelimiter '-' x.places then x.boundary? .documentStart
  else if atDelimiter '.' x.places then x.boundary? .documentEnd
  else match p.char with
    | '[' => x.openFlow? .flowSequenceStart
    | '\x7b' => x.openFlow? .flowMappingStart
    | ']' => x.closeFlow? .flowSequenceEnd
    | '\x7d' => x.closeFlow? .flowMappingEnd
    | ',' => x.dropKey?.map fun x => ((x.push .flowEntry).allowKey true).skip
    | '*' => x.item? fun ps => (anchorName? ps.tail).map fun (name, rest) => (.aliasOf name, rest)
    | '&' => x.item? fun ps => (anchorName? ps.tail).map fun (name, rest) => (.anchor name, rest)
    | '!' => x.item? fun ps => (tag? x.inFlow ps).map fun (t, rest) => (.tag t, rest)
    | '\x27' => x.item? fun ps => (Scalar.quoted? false ps.tail).map fun (cs, rest) =>
        (.scalar (String.ofList cs) .quoted, rest)
    | '\x22' => x.item? fun ps => (Scalar.quoted? true ps.tail).map fun (cs, rest) =>
        (.scalar (String.ofList cs) .quoted, rest)
    | c =>
      if c = '-' ∧ atGap ps then x.entry?
      else if c = '?' ∧ (x.inFlow ∨ atGap ps) then x.key?
      else if c = ':' ∧ (x.inFlow ∨ atGap ps) then x.value?
      else if c = '|' ∧ !x.inFlow then x.block? true
      else if c = '>' ∧ !x.inFlow then x.block? false
      else if !isGap c && startsPlain x.inFlow c ps then x.plain?
      else none

/-- Read tokens up to the end; each step takes at least one character. -/
def run : Nat → Lexer → Option Lexer
  | 0, _ => none
  | fuel + 1, x => do
    -- Collections end where something stands left of their margin, or at the end.
    let x ← (skipGap (x.places.length + 1) x).dropStale?
    match x.places with
    | [] => (x.close 0).dropKey?
    | p :: ps => run fuel (← (x.close (p.column + 1)).next? p ps)

end Lexer

/-- Cut a document into tokens. -/
def Token.scan? (text : String) : Option (List Token) := do
  let places ← placesOf? text
  let x ← Lexer.run (places.length + 1) ⟨places, 0, [], true, none, [], #[]⟩
  some x.tokens.toList

end Transclusion.Document
