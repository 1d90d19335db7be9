import Transclusion.Charset.Utf8
import Transclusion.Document.Scalar
import Transclusion.Text.Split

/-!
# Names, tags and directives

What stands in front of a node: the name of an anchor, by which aliases refer to the node, and a
tag, written with a handle that directives can declare.
-/

namespace Transclusion.Document

/-- Whether a character may stand in the name of an anchor. -/
def isWordChar (c : Char) : Bool := c.isAlphanum || c == '_' || c == '-'

/-- A word of such characters, and what follows it. -/
def word (ps : Places) : String × Places :=
  (String.ofList (charsOf (ps.takeWhile fun p => isWordChar p.char)),
    ps.dropWhile fun p => isWordChar p.char)

/-- Read the name of an anchor or an alias; it has to be followed by a gap or one of a few signs. -/
def anchorName? (ps : Places) : Option (String × Places) :=
  let (name, rest) := word ps
  if name ≠ "" && (atGap rest || starts ("?:,]\x7d%@\x60".toList.contains ·) rest) then
    some (name, rest)
  else none

/-! ### Tags -/

/-- A tag as written: its handle and what follows the handle. -/
structure TagText where
  handle : String
  suffix : String
deriving DecidableEq, Repr

/-- Whether a character may stand in a tag; in angle brackets and in directives there are more. -/
def isTagChar (wide : Bool) (c : Char) : Bool :=
  isWordChar c || ";/?:@&=+$.!~*\x27()".toList.contains c || (wide && ",[]".toList.contains c)

/-- The number of bytes of a character that starts with the given byte. -/
def widthOf? (b : Nat) : Option Nat :=
  if b < 0x80 then some 1
  else if 0xC0 ≤ b ∧ b < 0xE0 then some 2
  else if 0xE0 ≤ b ∧ b < 0xF0 then some 3
  else if 0xF0 ≤ b ∧ b < 0xF8 then some 4
  else none

/-- Read a byte written as a percent sign and two hexadecimal digits. -/
def codedByte? : Places → Option (Nat × Places)
  | p :: a :: b :: rest =>
    if p.char = '%' ∧ Scalar.isHexDigit a.char ∧ Scalar.isHexDigit b.char then
      some (Text.CodeRange.digitValue a.char * 16 + Text.CodeRange.digitValue b.char, rest)
    else none
  | _ => none

/-- Read coded bytes that continue a character. -/
def codedTail? : Nat → Places → Option (Bytes × Places)
  | 0, ps => some ([], ps)
  | n + 1, ps => do
    let (b, rest) ← codedByte? ps
    if b / 64 = 2 then
      let (bs, rest) ← codedTail? n rest
      some (UInt8.ofNat b :: bs, rest)
    else none

/-- Read the bytes of a character that are coded. -/
def codedChar? (ps : Places) : Option (Bytes × Places) := do
  let (b, rest) ← codedByte? ps
  let n ← widthOf? b
  let (bs, rest) ← codedTail? (n - 1) rest
  some (UInt8.ofNat b :: bs, rest)

/-- Read the characters of a tag as bytes; each step takes at least one character. -/
def tagBytes (wide : Bool) : Nat → Places → Option (Bytes × Places)
  | 0, _ => none
  | _ + 1, [] => some ([], [])
  | fuel + 1, p :: ps =>
    if p.char = '%' then do
      let (front, rest) ← codedChar? (p :: ps)
      let (bs, rest) ← tagBytes wide fuel rest
      some (front ++ bs, rest)
    else if isTagChar wide p.char then
      (tagBytes wide fuel ps).map fun (bs, rest) => (Utf8.encodeChar p.char ++ bs, rest)
    else some ([], p :: ps)

/-- Read the characters of a tag. -/
def tagText? (wide : Bool) (ps : Places) : Option (String × Places) :=
  (tagBytes wide (ps.length + 1) ps).map fun (bs, rest) => (String.ofList (Utf8.decode bs), rest)

/-- Read the characters of a tag, of which there has to be one. -/
def someTagText? (wide : Bool) (ps : Places) : Option (String × Places) :=
  (tagText? wide ps).bind fun (text, rest) => if text = "" then none else some (text, rest)

/-- Read a word between exclamation marks, the second of which may be missing. -/
def tagHandle? (ps : Places) : Option (String × Places) :=
  if startsWith '!' ps then
    let (name, rest) := word ps.tail
    if startsWith '!' rest then some ("!" ++ name ++ "!", rest.tail) else some ("!" ++ name, rest)
  else none

/-- Read a tag without a check of what follows it. A tag in angle brackets has no handle; one with a
single exclamation mark has that for a handle, unless it is nothing else. -/
def bareTag? (ps : Places) : Option (TagText × Places) :=
  if startsWith '<' ps.tail then do
    let (text, rest) ← someTagText? true (ps.drop 2)
    if startsWith '>' rest then some (⟨"", text⟩, rest.tail) else none
  else do
    let (handle, rest) ← tagHandle? ps
    if handle.length ≥ 2 && handle.endsWith "!" then do
      let (text, rest) ← someTagText? false rest
      some (⟨handle, text⟩, rest)
    else do
      let (text, rest) ← tagText? false rest
      let suffix := String.ofList (handle.toList.drop 1) ++ text
      some (if suffix = "" then ⟨"", "!"⟩ else ⟨"!", suffix⟩, rest)

/-- Read a tag; a gap has to follow it, or within brackets a comma. -/
def tag? (flow : Bool) (ps : Places) : Option (TagText × Places) := do
  let (tag, rest) ← bareTag? ps
  if (flow && startsWith ',' rest) || atGap rest then some (tag, rest) else none

/-! ### Directives -/

/-- What stands at the head of a document. -/
inductive Directive where
  | version (major minor : Nat)
  | tag (handle start : String)
deriving DecidableEq, Repr

/-- Read a number of at most nine digits. -/
def versionNumber? (ps : Places) : Option (Nat × Places) :=
  let digits := ps.takeWhile fun p => p.char.isDigit
  if digits.isEmpty || 9 < digits.length then none
  else some (Text.decimalValue (charsOf digits), ps.drop digits.length)

/-- Read the value of a version directive. -/
def versionValue? (ps : Places) : Option (Directive × Places) := do
  let (major, rest) ← versionNumber? (ps.dropWhile Place.isBlank)
  if startsWith '.' rest then
    let (minor, rest) ← versionNumber? rest.tail
    some (.version major minor, rest)
  else none

/-- Read the value of a tag directive: a handle and what it stands for. -/
def tagValue? (ps : Places) : Option (Directive × Places) := do
  let (handle, rest) ← tagHandle? (ps.dropWhile Place.isBlank)
  if (handle = "!" || (handle.length ≥ 2 && handle.endsWith "!")) && starts isBlank rest then
    let (start, rest) ← someTagText? true (rest.dropWhile Place.isBlank)
    if atGap rest then some (.tag handle start, rest) else none
  else none

/-- Read a directive after its percent sign, up to the end of its line. -/
def directive? (ps : Places) : Option (Directive × Places) := do
  let (name, rest) := word ps
  if !atGap rest then none
  else do
    let (d, rest) ← match name with
      | "YAML" => versionValue? rest
      | "TAG" => tagValue? rest
      | _ => none
    let rest ← endOfLine? rest
    some (d, rest.drop 1)

end Transclusion.Document
