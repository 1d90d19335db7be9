import Transclusion.Pattern.CharSet

/-!
# Expressions

The syntax of patterns after reading: what may stand at a position, conditions on positions,
groups that capture, and the usual combinators. Alternatives and repetitions are ordered: the
earlier way to match is preferred.
-/

namespace Transclusion.Pattern

/-- A condition on the place between two characters. -/
inductive Anchor where
  | textStart
  | textEnd
  | lineStart
  | lineEnd
  | crlfLineStart
  | crlfLineEnd
  | wordBoundary (ascii : Bool)
  | notWordBoundary (ascii : Bool)
  | wordStart (ascii : Bool)
  | wordEnd (ascii : Bool)
  | wordStartHalf (ascii : Bool)
  | wordEndHalf (ascii : Bool)
deriving DecidableEq, Repr

/-- A pattern. -/
inductive Expr where
  /-- Matches the empty text. -/
  | empty
  /-- Matches one character of the set. -/
  | oneOf (set : CharSet)
  /-- Matches the empty text where the condition holds. -/
  | anchor (a : Anchor)
  /-- Matches what the body matches and remembers it under a number. -/
  | capture (index : Nat) (body : Expr)
  /-- Matches the body several times; `most = none` is any number, `greedy` prefers more. -/
  | times (least : Nat) (most : Option Nat) (greedy : Bool) (body : Expr)
  /-- Matches the first and then the second. -/
  | seq (first second : Expr)
  /-- Matches the first or, failing that, the second. -/
  | alt (first second : Expr)
deriving Repr, Inhabited

namespace Anchor

/-- Whether a neighbour is there and belongs to a word. -/
def inWord (ascii : Bool) : Option Char → Bool
  | none => false
  | some c => if ascii then CharSet.asciiWord.contains c else CharSet.word.contains c

/-- Whether the condition holds between two neighbours; `none` is the edge of the text. -/
def holds (before after : Option Char) : Anchor → Bool
  | textStart => before.isNone
  | textEnd => after.isNone
  | lineStart => before.isNone || before == some '\n'
  | lineEnd => after.isNone || after == some '\n'
  | crlfLineStart =>
    before.isNone || before == some '\n' || (before == some '\r' && after != some '\n')
  | crlfLineEnd =>
    after.isNone || after == some '\r' || (after == some '\n' && before != some '\r')
  | wordBoundary ascii => inWord ascii before != inWord ascii after
  | notWordBoundary ascii => inWord ascii before == inWord ascii after
  | wordStart ascii => !inWord ascii before && inWord ascii after
  | wordEnd ascii => inWord ascii before && !inWord ascii after
  | wordStartHalf ascii => !inWord ascii before
  | wordEndHalf ascii => !inWord ascii after

end Anchor

namespace Expr

/-- The expressions of a list, one after the other. -/
def seqAll : List Expr → Expr
  | [] => .empty
  | [e] => e
  | e :: es => .seq e (seqAll es)

/-- The expressions of a list, the earlier preferred. -/
def altAll : List Expr → Expr
  | [] => .empty
  | [e] => e
  | e :: es => .alt e (altAll es)

/-- Whether the expression may match the empty text. -/
def nullable : Expr → Bool
  | empty => true
  | oneOf _ => false
  | anchor _ => true
  | capture _ body => body.nullable
  | times least _ _ body => least == 0 || body.nullable
  | seq first second => first.nullable && second.nullable
  | alt first second => first.nullable || second.nullable

/-- The number of instructions that the expression compiles to, at most. -/
def weight : Expr → Nat
  | empty => 0
  | oneOf set => 1 + set.ranges.length / 4
  | anchor _ => 1
  | capture _ body => 2 + body.weight
  | times least most _ body => (max least (most.getD 0) + 1) * (body.weight + 2)
  | seq first second => first.weight + second.weight
  | alt first second => 1 + first.weight + second.weight

end Expr

end Transclusion.Pattern
