import Transclusion.Pattern.Basic

/-!
# Replacement templates

The text that replaces a match. `$1` and `${1}` stand for a numbered group, `$name` and `${name}`
for a named one, `$$` for a dollar sign; a group that is missing is empty, and a dollar sign that
starts none of these stands for itself. After a bare `$` the name is the longest run of ASCII
letters, digits and underscores.
-/

namespace Transclusion

/-- One part of a template. -/
inductive TemplatePart where
  | text (c : Char)
  | group (name : List Char)
deriving DecidableEq, Repr

namespace Template

/-- Whether a character may stand in a name that is not in braces. -/
def inName (c : Char) : Bool :=
  c.isAlphanum || c == '_'

/-- The reference that follows a dollar sign, with the rest of the template. -/
def reference? : List Char → Option (List Char × List Char)
  | '\x7b' :: cs => Text.cutChars '\x7d' cs
  | cs => if cs.takeWhile inName = [] then none else some (cs.takeWhile inName, cs.dropWhile inName)

/-- Read the parts of a template. Each step takes at least one character. -/
def partsFrom : Nat → List Char → List TemplatePart
  | 0, _ => []
  | _ + 1, [] => []
  | fuel + 1, '$' :: cs =>
    match cs with
    | '$' :: rest => .text '$' :: partsFrom fuel rest
    -- A dollar sign that starts no reference stands for itself.
    | _ =>
      match reference? cs with
      | some (name, rest) => .group name :: partsFrom fuel rest
      | none => .text '$' :: partsFrom fuel cs
  | fuel + 1, c :: cs => .text c :: partsFrom fuel cs

/-- The parts of a template. -/
def parts (template : String) : List TemplatePart :=
  partsFrom template.toList.length template.toList

/-- The text of the group that a name refers to; a name that is a number counts groups. -/
def groupText (p : Pattern) (m : Match) (name : List Char) : List Char :=
  match Text.word? name with
  | some k => (m.group k).toList
  | none =>
    match p.groupNamed? (String.ofList name) with
    | some k => (m.group k).toList
    | none => []

/-- What a template gives for a match. -/
def expand (p : Pattern) (template : String) (m : Match) : List Char :=
  (parts template).flatMap fun part => match part with
    | .text c => [c]
    | .group name => groupText p m name

end Template

namespace Pattern

/-- Replace every match in a text by what a template gives for it. -/
def replaceWith (p : Pattern) (text template : String) : String :=
  p.replaceAll text (Template.expand p template)

end Pattern

end Transclusion
