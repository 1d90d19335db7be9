import Transclusion.Matcher

/-!
# Plans

Which matchers apply to a set of requested names. Names are dotted paths: a name equal to that of
a matcher selects it, a name below it selects it and hands the remainder on to the referenced
content. Each name is claimed by the first matcher that answers for it. With trimming on, the
blocks of matchers that claim nothing are stripped.
-/

namespace Transclusion

/-- One decision of a plan. -/
inductive PlanEntry where
  /-- Strip every block of the matcher. -/
  | exclude (matcher : Matcher)
  /-- Keep the blocks as they are. -/
  | keep (matcher : Matcher)
  /-- Replace each block by the content it refers to, resolving the names inside it. -/
  | expand (matcher : Matcher) (names : List String)
deriving Repr, Inhabited

namespace PlanEntry

/-- The entry of a selected matcher, by the work that its blocks need: without a reference there is
nothing to fetch, and without names there is no need to if the blocks hold content already. -/
def select (matcher : Matcher) (names : List String) : PlanEntry :=
  if matcher.reference.isNone || (names.isEmpty && !matcher.present.isEmpty) then keep matcher
  else expand matcher names

def matcher : PlanEntry → Matcher
  | exclude m | keep m | expand m _ => m

/-- Whether the blocks stay in the document in some form. -/
def isInclude : PlanEntry → Bool
  | exclude _ => false
  | _ => true

/-- Whether a document has to be scanned for the entry. -/
def needsScan : PlanEntry → Bool
  | keep _ => false
  | _ => true

end PlanEntry

/-- What to do with a document. -/
inductive Resolution where
  /-- Leave it alone. -/
  | halt
  /-- Go on and use it as it comes. -/
  | verbatim
  /-- Go on and assemble it with a plan, which is applied from its end. -/
  | plan (entries : List PlanEntry)
deriving Repr, Inhabited

namespace Resolution

def proceeds : Resolution → Bool
  | halt => false
  | _ => true

/-- The resolution for a plan; an empty one changes nothing. -/
def ofPlan (entries : List PlanEntry) : Resolution :=
  if entries.isEmpty then verbatim else plan entries

/-- The name that turns trimming off. -/
def wildcard : String := "*"

end Resolution

/-- A matcher that was asked for, with what was asked for inside its blocks. -/
structure Selected where
  name : String
  matcher : Matcher
  subNames : List String
deriving Repr, Inhabited

namespace Selected

/-- Add what one more name asks for. -/
def add (s : Selected) : NameMatch → Selected
  | .exact => s
  | .child rest => { s with subNames := s.subNames ++ [rest] }

/-- The entry of a selected matcher; with trimming on there is none if its blocks already hold
everything asked for. -/
def included? (trim : Bool) (s : Selected) : Option PlanEntry :=
  if trim && !s.subNames.isEmpty && s.matcher.presentsAll s.subNames then none
  else some (.select s.matcher s.subNames)

/-- Note that a name selects a matcher. A matcher takes over what was noted under its name. -/
def note (m : Matcher) : List Selected → NameMatch → List Selected
  | [], hit => [add ⟨m.name.getD "", m, []⟩ hit]
  | s :: rest, hit =>
    if s.name = m.name.getD "" then add { s with matcher := m } hit :: rest
    else s :: note m rest hit

end Selected

/-- How far names have been offered to matchers. -/
structure Selection where
  selected : List Selected
  /-- Matchers that nobody asked for. -/
  missing : List Matcher
  /-- Names that no matcher has answered for yet. -/
  outstanding : List String
deriving Repr, Inhabited

namespace Selection

/-- Offer the outstanding names to a matcher, which takes those that it answers for. -/
def offer (s : Selection) (m : Matcher) : Selection :=
  let hits := s.outstanding.filterMap m.matchName
  { selected := hits.foldl (Selected.note m) s.selected
    missing := if hits.isEmpty then s.missing ++ [m] else s.missing
    outstanding := s.outstanding.filter fun n => (m.matchName n).isNone }

/-- Offer names to matchers one after the other. As soon as no name is left, nobody asks for the
matchers that have not had their turn. -/
def run (s : Selection) : List Matcher → Selection
  | [] => s
  | m :: ms =>
    let next := s.offer m
    if next.outstanding.isEmpty then { next with missing := next.missing ++ ms } else run next ms

end Selection

namespace Resolution

/-- Resolve names against matchers that all have a name. -/
def resolveNamed (matchers : List Matcher) (names : List String) (trim : Bool) : Resolution :=
  let s := Selection.run ⟨[], [], names⟩ matchers
  -- The wildcard counts only if no matcher answers for it as a name.
  let trim := trim && !s.outstanding.contains wildcard
  if trim && s.selected.isEmpty then halt
  else
    ofPlan (s.selected.filterMap (Selected.included? trim) ++
      if trim then s.missing.map .exclude else [])

/-- Resolve names against the matchers of one resource. No names means that nothing in particular is
asked for: then the first of several matchers is kept and the others are stripped. -/
def resolve (matchers : List Matcher) (names : List String) (trim : Bool) : Resolution :=
  match matchers with
  | [] => halt
  | first :: others =>
    match matchers.find? Matcher.isUnnamed with
    | some default => if names.isEmpty then verbatim else ofPlan [.select default names]
    | none =>
      if !names.isEmpty then resolveNamed matchers names trim
      else if others.isEmpty then verbatim
      else resolveNamed matchers [first.name.getD ""] true

end Resolution

end Transclusion
