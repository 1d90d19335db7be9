import Transclusion.Content
import Transclusion.Reference
import Transclusion.Repository

/-!
# Assembly

Content is assembled by a plan, which is consumed from its end: the last entry that needs scanning
is applied to the whole content, and each gap between its matches is assembled by the entries
before it. Matches are dropped, kept, or replaced by the content that they refer to, which is
assembled in turn by a plan of its own, up to a limit of nested references.

## Main results

`fragments_skip`: entries that need no scanning are passed over.
-/

namespace Transclusion

/-- The rules for one resource of an assemblage: how requested names resolve there. A resource
without matchers is left alone. -/
def Repository.resolve (p : Repository) (a : Assemblage) (method uri : String) (headers : Headers)
    (names : List String) (trim : Bool) : Resolution :=
  match p.matchers a method uri headers with
  | some matchers => Resolution.resolve matchers names trim
  | none => .halt

/-- What stays the same while the content of one request is assembled. -/
structure Assembly (σ : Type) where
  assemblage : Assemblage
  repository : Repository
  reader : ContentReader
  origin : Origin σ
  /-- Scheme and headers that every fetch repeats. -/
  scheme : String
  headers : Headers

namespace Assembly

variable {σ : Type}

/-- What replaces a block: its matcher, the names asked for inside it, and the match. -/
abbrev Expansion (σ : Type) := Matcher → List String → Match → Run σ String

/-- The fragments that one match of an entry comes to. -/
def block (expansion : Expansion σ) (entry : PlanEntry) (m : Match) : Run σ (List String) :=
  match entry with
  | .exclude _ => return []
  | .keep _ => return [m.whole]
  | .expand matcher names => do return [← expansion matcher names m]

/-- The fragments of a text, in order, by the entries of a plan from its end. -/
def fragments (expansion : Expansion σ) : List PlanEntry → String → Run σ (List String)
  | [], text => return [text]
  | entry :: rest, text =>
    if entry.needsScan then do
      -- The gaps belong to the entries before this one, the matches to this one.
      let cut := entry.matcher.pattern.cut text
      let front ← Run.gather (fun (gap, m) => do
        let before ← fragments expansion rest gap
        return before ++ (← block expansion entry m)) cut.pieces
      let last ← fragments expansion rest cut.tail
      return front ++ last
    else fragments expansion rest text

/-- The assembled form of a text; without a plan it is the text itself. -/
def assembled (expansion : Expansion σ) (resolution : Resolution) (text : String) :
    Run σ String :=
  match resolution with
  | .plan entries => do return String.join (← fragments expansion entries.reverse text)
  | _ => return text

/-- The request made for a reference. -/
def request (a : Assembly σ) (uri : String) (parameters : Parameters) : Request :=
  .fetch uri a.scheme a.headers parameters

/-- Replace a block by the content that its reference points to; `depth` counts the references
that may still be followed. A block stays as it is when it has no reference, when the limit is
reached, and when nothing is wanted of the resource; a failed fetch is written into the block. -/
def expand (a : Assembly σ) : Nat → Expansion σ
  | 0, _, _, m => return m.whole
  | depth + 1, matcher, names, m =>
    match matcher.findReference m.whole with
    | none => return m.whole
    | some reference =>
      let (uri, parameters) := parseReference reference
      -- Whether anything is wanted of the resource is known before it is fetched.
      let resolution := a.repository.resolve a.assemblage fetchMethod uri a.headers names true
      if resolution.proceeds then do
        match ← a.reader.fetch a.origin (a.request uri parameters) with
        | .error failure => return a.assemblage.renderFailure m.whole failure
        | .ok content =>
          -- The content has blocks of its own, for which one reference less is left.
          let text ← assembled (a.expand depth) resolution content
          return a.assemblage.adjust text (m.groups.map (·.getD ""))
      else return m.whole

/-- Assemble a text by a plan, following at most `depth` nested references; the fragments come in
the order of the text. -/
def assemble (a : Assembly σ) (depth : Nat) (plan : List PlanEntry) (text : String) :
    Run σ (List String) :=
  fragments (a.expand depth) plan.reverse text

/-- Entries that need no scanning are passed over. -/
theorem fragments_skip (expansion : Expansion σ) {entry : PlanEntry} (h : entry.needsScan = false)
    (rest : List PlanEntry) (text : String) :
    fragments expansion (entry :: rest) text = fragments expansion rest text := by
  simp [fragments, h]

end Assembly

end Transclusion
