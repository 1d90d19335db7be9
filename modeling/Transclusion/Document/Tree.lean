import Transclusion.Document.Node

/-!
# Reading documents

A document as a tree, and what its nodes can be read as: texts, numbers, items and named parts. Tags
decide nothing but whether a plain scalar is null and whether a literal one is a number.
-/

namespace Transclusion.Document

/-- A document: its tree and its anchors. -/
structure Tree where
  root : Node
  anchors : Anchors
deriving Repr, Inhabited

/-- Read a document. One without any content is an empty scalar. -/
def Tree.read? (text : String) : Option Tree := do
  let tokens ← Token.scan? text
  let (n, b) ← (Build.whole (4 * tokens.length + 8)).run ⟨tokens, [], ⟨[], [], []⟩⟩
  some ⟨n, b.anchors⟩

namespace Tree

/-- The node itself, or what it stands for if it is an alias. -/
def resolve (t : Tree) (n : Node) : Node :=
  match n with
  | .aliasOf number => (t.anchors.target? number).getD n
  | _ => n

/-- Whether nothing is written for a node. -/
def isBlank : Node → Bool
  | .scalar "" .plain _ => true
  | _ => false

/-- The text of a node: that of a scalar, however it is written. -/
def text? (t : Tree) (n : Node) : Option String :=
  match t.resolve n with
  | .scalar text _ _ => some text
  | _ => none

/-- The items of a node; nothing written is no items. -/
def items? (t : Tree) (n : Node) : Option (List Node) :=
  match t.resolve n with
  | .sequence items => some items
  | m => if isBlank m then some [] else none

/-- The pairs of a node, whose keys have to be texts; nothing written is no pairs. -/
def pairs? (t : Tree) (n : Node) : Option (List (String × Node)) :=
  match t.resolve n with
  | .mapping pairs => pairs.mapM fun (k, v) => (t.text? k).map fun k => (k, v)
  | m => if isBlank m then some [] else none

/-- The spellings of the null value. -/
def isNullText (s : String) : Bool := ["null", "Null", "NULL", "~"].contains s

/-- The tag of the null value. -/
def nullTag : String := "tag:yaml.org,2002:null"

/-- The tag of numbers. -/
def numberTag : String := "tag:yaml.org,2002:int"

/-- The text of a node, or `none` if it is null or nothing is written; only a plain scalar can be
null. With the tag of null nothing else will do. -/
def optionalText? (t : Tree) (n : Node) : Option (Option String) :=
  match t.resolve n with
  | .scalar text style tag =>
    if style ≠ .plain then some (some text)
    else match tag with
      | none => some (if text = "" ∨ isNullText text then none else some text)
      | some tag =>
        if tag = nullTag then if isNullText text then some none else none
        else some (some text)
  | _ => none

/-- The number that digits of some base denote, if it fits a machine word. -/
def digits? (base : Nat) (digits : List Char) : Option Nat :=
  let n := digits.foldl (fun n c => base * n + Text.CodeRange.digitValue c) 0
  if digits ≠ [] ∧ digits.all (fun c => Scalar.isHexDigit c && Text.CodeRange.digitValue c < base) ∧
    n < Nat.pow 2 64 then some n
  else none

/-- The number that a text denotes: decimal without leading zeros, or hexadecimal, octal or
binary. -/
def number? (cs : List Char) : Option Nat :=
  let cs := match cs with
    | '+' :: rest => rest
    | _ => cs
  match cs with
  | '0' :: 'x' :: rest => digits? 16 rest
  | '0' :: 'o' :: rest => digits? 8 rest
  | '0' :: 'b' :: rest => digits? 2 rest
  -- Digits after a zero are text.
  | '0' :: d :: rest => if (d :: rest).all Char.isDigit then none else digits? 10 cs
  | _ => digits? 10 cs

/-- The number of a node: a plain scalar, or a literal one that is tagged as a number. -/
def word? (t : Tree) (n : Node) : Option Nat :=
  match t.resolve n with
  | .scalar text style tag =>
    if style = .plain ∨ (style = .literal ∧ tag = some numberTag) then number? text.toList else none
  | _ => none

end Tree

end Transclusion.Document
