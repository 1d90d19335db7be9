import Transclusion.Assembly
import Transclusion.Command.Json
import Transclusion.Command.Rules

/-!
# Checking a configuration

A report says what a configuration holds and, for one resource, what the engine would do with its
content for some requested names. It is written as text or as JSON.
-/

namespace Transclusion

/-- What is to be checked. -/
structure CheckOptions where
  contentType : String
  /-- The resource to resolve names for, if there is one. -/
  uri : Option String
  method : String
  names : List String
  json : Bool
deriving DecidableEq, Repr

instance : Inhabited CheckOptions := ⟨⟨"text/html", none, fetchMethod, [], false⟩⟩

structure AssemblageSummary where
  id : String
  contentTypes : List String
  errorSlots : List String
  adjusters : Nat
deriving DecidableEq, Repr

/-- One step of a plan in a report. -/
structure PlanStep where
  action : String
  /-- The name of the matcher. -/
  matcher : String
  names : List String
deriving DecidableEq, Repr

/-- A plan in a report, its steps in the order in which they are applied. -/
structure PlanReport where
  method : String
  uri : String
  names : List String
  outcome : String
  steps : List PlanStep
deriving DecidableEq, Repr

structure CheckReport where
  path : String
  assemblages : List AssemblageSummary
  plan : Option PlanReport
deriving DecidableEq, Repr

def CatalogEntry.summary (e : CatalogEntry) : AssemblageSummary :=
  ⟨e.assemblage.id, e.contentTypes, e.assemblage.errors.map (·.1), e.assemblage.adjusters.length⟩

/-- What stands for the name of a matcher that has none. -/
def defaultMatcherName : String := "(default)"

/-- The step that an entry of a plan stands for. -/
def PlanEntry.step (e : PlanEntry) : PlanStep :=
  let name := e.matcher.name.getD defaultMatcherName
  match e with
  | .exclude _ => ⟨"exclude", name, []⟩
  | .keep _ => ⟨"keep", name, []⟩
  | .expand _ names => ⟨"expand", name, names⟩

def Resolution.outcome : Resolution → String
  | .halt => "halt"
  | .verbatim => "verbatim"
  | .plan _ => "plan"

/-- The steps of a resolution in the order in which they are applied. -/
def Resolution.steps : Resolution → List PlanStep
  | .plan entries => entries.reverse.map PlanEntry.step
  | _ => []

namespace CheckReport

/-- How names resolve for a resource, requested without further headers. -/
def planOf (catalog : Catalog) (assemblage : Assemblage) (o : CheckOptions) (uri : String) :
    PlanReport :=
  let uri := Text.dropSlashes uri
  let resolution := catalog.toRepository.resolve assemblage o.method uri .empty o.names false
  ⟨Text.upper o.method, uri, o.names, resolution.outcome, resolution.steps⟩

/-- Report on a catalog that comes from the file at a path. -/
def ofCatalog (path : String) (catalog : Catalog) (o : CheckOptions) :
    Except CommandFault CheckReport :=
  let assemblages := catalog.entries.map CatalogEntry.summary
  match o.uri with
  | none => .ok ⟨path, assemblages, none⟩
  | some uri =>
    match catalog.assemblage o.contentType with
    | none => .error (.noAssemblage o.contentType)
    | some assemblage => .ok ⟨path, assemblages, some (planOf catalog assemblage o uri)⟩

/-! ### Text -/

def listed (ss : List String) : String := String.intercalate ", " ss

def summaryLine (s : AssemblageSummary) : String :=
  s!"  {s.id} [{listed s.contentTypes}]: {s.errorSlots.length} error slot(s), {s.adjusters} adjuster(s)"

def stepLine (s : PlanStep) : String :=
  if s.names.isEmpty then s!"  {s.action} {s.matcher}"
  else s!"  {s.action} {s.matcher} -> [{listed s.names}]"

/-- The lines about a plan, after a blank one. -/
def planLines (p : PlanReport) : List String :=
  ["", s!"{p.method} {p.uri} names=[{listed p.names}]: {p.outcome}"] ++ p.steps.map stepLine

def lines (r : CheckReport) : List String :=
  [s!"✓ {r.path} is valid"] ++
    (if r.assemblages.isEmpty then ["  (no assemblages configured)"] else []) ++
    r.assemblages.map summaryLine ++ (r.plan.map planLines).getD []

/-! ### JSON -/

def summaryJson (s : AssemblageSummary) : JsonValue :=
  .object [("id", .text s.id), ("content_types", .texts s.contentTypes),
    ("error_slots", .texts s.errorSlots), ("adjusters", .number s.adjusters)]

def stepJson (s : PlanStep) : JsonValue :=
  .object ([("action", .text s.action), ("matcher", .text s.matcher)] ++
    if s.names.isEmpty then [] else [("sub_names", .texts s.names)])

def planJson (p : PlanReport) : JsonValue :=
  .object [("method", .text p.method), ("uri", .text p.uri), ("names", .texts p.names),
    ("outcome", .text p.outcome), ("steps", .list (p.steps.map stepJson))]

def toJson (r : CheckReport) : JsonValue :=
  .object ([("config", .text r.path), ("assemblages", .list (r.assemblages.map summaryJson))] ++
    (match r.plan with
      | some p => [("plan", planJson p)]
      | none => []))

/-- What is printed for a report. -/
def render (json : Bool) (r : CheckReport) : String :=
  if json then r.toJson.render 0 ++ "\n" else String.join (r.lines.map (· ++ "\n"))

end CheckReport

/-- Check the configuration at a path with the given content; the result is what is printed. -/
def check (path : String) (content : Option Bytes) (o : CheckOptions) :
    Except CommandFault String := do
  let config ← loadConfig path content
  let catalog ← compileRules config
  let report ← CheckReport.ofCatalog path catalog o
  .ok (report.render o.json)

end Transclusion
