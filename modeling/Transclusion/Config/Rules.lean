import Transclusion.Repository

/-!
# Rules as configured

Matchers, replacers, resources and assemblages before their patterns are compiled. Compiling stops
at the first pattern that is none and names its field.

## Main results

`compilePattern_eq_ok_iff`: a field compiles exactly if its text is a pattern.
-/

namespace Transclusion

/-- Why a configuration cannot be used. -/
inductive ConfigFault where
  /-- The file cannot be read. -/
  | unreadable
  /-- The text is not a document of the expected form. -/
  | malformed
  /-- A pattern does not compile. -/
  | invalidPattern (field : String)
  /-- Something required is missing or blank. -/
  | missingField (field : String)
deriving DecidableEq, Repr, Inhabited

/-- The message of a fault, as far as it is ours to word. -/
def ConfigFault.message : ConfigFault → String
  | unreadable => "Failed to read config file"
  | malformed => "Failed to parse YAML"
  | invalidPattern field => "Invalid pattern in " ++ field
  | missingField field => "Missing required field: " ++ field

/-- Compile the pattern of a field. -/
def compilePattern (field source : String) : Except ConfigFault Pattern :=
  match Pattern.compile? source with
  | some p => .ok p
  | none => .error (.invalidPattern field)

/-- Apply a step to the members of a list with their positions, up to the first failure. -/
def eachIndexed {α β ε : Type} (step : Nat → α → Except ε β) : Nat → List α → Except ε (List β)
  | _, [] => .ok []
  | k, x :: xs => do
    let y ← step k x
    let ys ← eachIndexed step (k + 1) xs
    .ok (y :: ys)

/-- A replacer as configured. -/
structure ReplacerRule where
  pattern : String
  template : String
deriving DecidableEq, Repr, Inhabited

/-- Compile a replacer; `field` gives the full name of one of its parts. -/
def ReplacerRule.compile (r : ReplacerRule) (field : String → String) :
    Except ConfigFault Replacer := do
  .ok ⟨← compilePattern (field "pattern") r.pattern, r.template⟩

/-- A matcher as configured. -/
structure MatcherRule where
  name : Option String
  pattern : String
  reference : Option String
  present : List String
deriving DecidableEq, Repr, Inhabited

/-- Compile a matcher, its pattern before its reference. -/
def MatcherRule.compile (m : MatcherRule) (field : String → String) :
    Except ConfigFault Matcher := do
  let pattern ← compilePattern (field "pattern") m.pattern
  match m.reference with
  | none => .ok (.make m.name pattern none m.present)
  | some source =>
    let reference ← compilePattern (field "reference") source
    .ok (.make m.name pattern (some reference) m.present)

/-- A resource as configured; its headers are sorted by name. -/
structure ResourceRule where
  method : String
  uri : String
  headers : List (String × String)
  matchers : List MatcherRule
deriving DecidableEq, Repr, Inhabited

/-- Compile a resource: its URI, its headers, then its matchers. -/
def ResourceRule.compile (r : ResourceRule) (field : String) : Except ConfigFault Resource := do
  let uri ← compilePattern (field ++ ".uri") r.uri
  let headers ← eachIndexed (fun _ (name, pattern) => do
    .ok (name, ← compilePattern (field ++ ".headers." ++ name) pattern)) 0 r.headers
  let matchers ← eachIndexed (fun k (m : MatcherRule) =>
    m.compile fun part => s!"{field}.matchers[{k}].{part}") 0 r.matchers
  .ok ⟨Text.upper r.method, uri, headers, matchers⟩

/-- An assemblage as configured; its error slots are sorted by name. -/
structure AssemblageRule where
  id : String
  contentTypes : List String
  errors : List (String × ReplacerRule)
  adjusters : List ReplacerRule
  resources : List ResourceRule
deriving DecidableEq, Repr, Inhabited

/-- Compile an assemblage: its error slots, its adjusters, then its resources. -/
def AssemblageRule.compile (a : AssemblageRule) :
    Except ConfigFault (Assemblage × List Resource) := do
  let errors ← eachIndexed (fun _ (slot, r) => do
    .ok (slot, ← ReplacerRule.compile r fun part => s!"{a.id}.errors.{slot}.{part}")) 0 a.errors
  let adjusters ← eachIndexed (fun k (r : ReplacerRule) =>
    r.compile fun part => s!"{a.id}.adjusters[{k}].{part}") 0 a.adjusters
  let resources ← eachIndexed (fun k (r : ResourceRule) =>
    r.compile s!"{a.id}.resources[{k}]") 0 a.resources
  .ok (⟨a.id, errors, adjusters⟩, resources)

/-- Compile assemblages into a catalog, in order. -/
def compileCatalog (rules : List AssemblageRule) : Except ConfigFault Catalog := do
  let compiled ← eachIndexed (fun _ (a : AssemblageRule) => do
    let (assemblage, resources) ← a.compile
    .ok (assemblage, a.contentTypes, resources)) 0 rules
  .ok (compiled.foldl (fun c (assemblage, types, resources) => c.insert assemblage types resources)
    .empty)

/-- A field compiles exactly if its text is a pattern. -/
theorem compilePattern_eq_ok_iff {field source : String} {p : Pattern} :
    compilePattern field source = .ok p ↔ Pattern.compile? source = some p := by
  unfold compilePattern
  split <;> simp_all

end Transclusion
