import Mathlib.Data.List.Forall2
import Transclusion.Command.Check
import Transclusion.Proofs.Charset.Utf8
import Transclusion.Proofs.Command.Json
import Transclusion.Proofs.Engine.Delivery
import Transclusion.Proofs.Trigger

/-!
# Previews

A check resolves names for a resource without asking for the resource. The engine comes to the same
resolution when the names are listed in the trigger header of a request for this resource, although
it reads them from a header and finds the rules by what the origin answers.

## Main results

`check_foretells`: the plan that a check reports is the one that the engine follows.
-/

namespace Transclusion

/-- How an engine resolves the names of a request by the rules of an assemblage. -/
def Engine.resolution (e : Engine) (r : Request) (assemblage : Assemblage) : Resolution :=
  e.repository.resolve assemblage (e.forwarded r).method (e.forwarded r).uri (e.forwarded r).headers
    (e.asked r) false

/-! ### What a report tells -/

/-- What a matcher is called in a report. -/
inductive Matcher.Called : Matcher → String → Prop
  | named {m : Matcher} {name : String} (named : m.name = some name) : Called m name
  | unnamed {m : Matcher} (unnamed : m.name = none) : Called m "(default)"

/-- Whether a step says what an entry of a plan does. -/
inductive PlanStep.Tells : PlanStep → PlanEntry → Prop
  | exclude {m : Matcher} {name : String} (called : m.Called name) :
      Tells ⟨"exclude", name, []⟩ (.exclude m)
  | keep {m : Matcher} {name : String} (called : m.Called name) :
      Tells ⟨"keep", name, []⟩ (.keep m)
  | expand {m : Matcher} {name : String} {names : List String} (called : m.Called name) :
      Tells ⟨"expand", name, names⟩ (.expand m names)

/-- Whether a report says how a resolution goes on. A plan is applied from its end. -/
inductive PlanReport.Tells (p : PlanReport) : Resolution → Prop
  | halt (outcome : p.outcome = "halt") (steps : p.steps = []) : Tells p .halt
  | verbatim (outcome : p.outcome = "verbatim") (steps : p.steps = []) : Tells p .verbatim
  | plan {entries : List PlanEntry} (outcome : p.outcome = "plan")
      (steps : List.Forall₂ PlanStep.Tells p.steps entries.reverse) : Tells p (.plan entries)

/-- Whether a reported plan is what an engine makes of a response to a request. -/
structure PlanReport.Foretells (p : PlanReport) (e : Engine) (r : Request) (given : Response) :
    Prop where
  resolved : ∃ assemblage, e.repository.assemblage (given.contentType.getD "") = some assemblage ∧
    p.Tells (e.resolution r assemblage)
  -- Content is read exactly if there is a plan for it; otherwise the response stays as it is.
  read : p.outcome = "plan" ↔ (e.plan? (e.forwarded r) (e.asked r) given).isSome = true
  unread : p.outcome ≠ "plan" → ∀ (σ : Type) (o : Origin σ) (s next : σ),
    o.reply s (e.forwarded r) = (.ok given, next) →
      e.process o r s = ⟨given, [e.forwarded r], next⟩
  applied : ∀ assemblage entries,
    e.plan? (e.forwarded r) (e.asked r) given = some (assemblage, entries) →
      ∃ consumed : List PlanEntry, List.Forall₂ PlanStep.Tells p.steps consumed ∧
        ∀ (σ : Type) (a : Assembly σ) (depth : Nat) (text : String),
          a.assemble depth entries text = Assembly.fragments (a.expand depth) consumed text

theorem PlanStep.tells_step (entry : PlanEntry) : entry.step.Tells entry := by
  have called : entry.matcher.Called (entry.matcher.name.getD defaultMatcherName) := by
    cases name : entry.matcher.name with
    | none => exact .unnamed name
    | some given => exact .named name
  cases entry with
  | exclude => exact .exclude called
  | keep => exact .keep called
  | expand => exact .expand called

theorem PlanReport.tells_of_eq {p : PlanReport} {r : Resolution} (outcome : p.outcome = r.outcome)
    (steps : p.steps = r.steps) : p.Tells r := by
  cases r with
  | halt => exact .halt outcome steps
  | verbatim => exact .verbatim outcome steps
  | plan entries =>
    refine .plan outcome ?_
    rw [steps, Resolution.steps, List.forall₂_map_left_iff]
    exact List.forall₂_same.2 fun entry _ => PlanStep.tells_step entry

theorem PlanReport.Tells.outcome_eq_plan_iff {p : PlanReport} {r : Resolution} (tells : p.Tells r) :
    p.outcome = "plan" ↔ ∃ entries, r = .plan entries := by
  cases tells with
  | halt outcome => simp [outcome]
  | verbatim outcome => simp [outcome]
  | plan outcome => simp [outcome]

/-! ### What is printed of a report -/

/-- The line of a step. -/
inductive PlanStep.Line : PlanStep → String → Prop
  | bare {action matcher : String} :
      Line ⟨action, matcher, []⟩ ("  " ++ action ++ " " ++ matcher)
  | named {action matcher : String} {names : List String} (any : names ≠ []) :
      Line ⟨action, matcher, names⟩
        ("  " ++ action ++ " " ++ matcher ++ " -> [" ++ String.intercalate ", " names ++ "]")

/-- The JSON object of a step. -/
inductive PlanStep.Json : PlanStep → JsonValue → Prop
  | bare {action matcher : String} :
      Json ⟨action, matcher, []⟩
        (.object [("action", .text action), ("matcher", .text matcher)])
  | named {action matcher : String} {names : List String} (any : names ≠ []) :
      Json ⟨action, matcher, names⟩
        (.object [("action", .text action), ("matcher", .text matcher),
          ("sub_names", .list (names.map .text))])

/-- How a plan is printed, with or without JSON, after what is printed of the configuration. -/
inductive PlanReport.Printed (p : PlanReport) : Bool → String → Prop
  | lines {before steps : List String} (lines : List.Forall₂ PlanStep.Line p.steps steps) :
      Printed p false (String.join ((before ++ ["", p.method ++ " " ++ p.uri ++ " names=[" ++
        String.intercalate ", " p.names ++ "]: " ++ p.outcome] ++ steps).map (· ++ "\n")))
  | json {printed : String} {config assemblages : JsonValue} {steps : List JsonValue}
      (objects : List.Forall₂ PlanStep.Json p.steps steps)
      (spells : JsonValue.Spells printed.toList (.object [("config", config),
        ("assemblages", assemblages),
        ("plan", .object [("method", .text p.method), ("uri", .text p.uri),
          ("names", .list (p.names.map .text)), ("outcome", .text p.outcome),
          ("steps", .list steps)])])) :
      Printed p true (printed ++ "\n")

theorem PlanStep.line_stepLine (s : PlanStep) : s.Line (CheckReport.stepLine s) := by
  obtain ⟨action, matcher, names⟩ := s
  cases names with
  | nil => exact .bare
  | cons name names => exact .named (List.cons_ne_nil _ _)

theorem PlanStep.json_stepJson (s : PlanStep) : s.Json (CheckReport.stepJson s) := by
  obtain ⟨action, matcher, names⟩ := s
  cases names with
  | nil => exact .bare
  | cons name names => exact .named (List.cons_ne_nil _ _)

theorem PlanReport.printed_render (p : PlanReport) (path : String)
    (assemblages : List AssemblageSummary) (json : Bool) :
    p.Printed json (CheckReport.render json ⟨path, assemblages, some p⟩) := by
  cases json with
  | false =>
    have lines : List.Forall₂ PlanStep.Line p.steps (p.steps.map CheckReport.stepLine) :=
      List.forall₂_map_right_iff.2 (List.forall₂_same.2 fun s _ => s.line_stepLine)
    rw [CheckReport.render, if_neg Bool.false_ne_true, CheckReport.lines, Option.map_some,
      Option.getD_some, CheckReport.planLines, ← List.append_assoc]
    exact .lines lines
  | true =>
    have objects : List.Forall₂ PlanStep.Json p.steps (p.steps.map CheckReport.stepJson) :=
      List.forall₂_map_right_iff.2 (List.forall₂_same.2 fun s _ => s.json_stepJson)
    exact .json objects (JsonValue.spells_render 0 _)

/-! ### The resolutions of a check and of an engine -/

/-- Only the media type of a content type matters to a catalog. -/
theorem Catalog.assemblage_of_media {c : Catalog} {contentType other : String}
    (typed : (MediaType.parse contentType).media = (MediaType.parse other).media) :
    c.assemblage contentType = c.assemblage other := by
  unfold assemblage
  rw [typed]

/-- A report foretells what becomes of a response if it tells how an engine resolves the request. -/
theorem PlanReport.foretells_of_resolution {p : PlanReport} {e : Engine} {r : Request}
    {given : Response} {assemblage : Assemblage} (asked : e.asked r ≠ [])
    (content : given.hasContent = true)
    (ruled : e.repository.assemblage (given.contentType.getD "") = some assemblage)
    (tells : p.Tells (e.resolution r assemblage)) : p.Foretells e r given := by
  have planned : ∀ other entries,
      e.plan? (e.forwarded r) (e.asked r) given = some (other, entries) ↔
        other = assemblage ∧ e.resolution r assemblage = .plan entries := by
    intro other entries
    rw [Engine.plan?_eq_some_iff, ruled, Option.some.injEq]
    constructor
    · rintro ⟨-, -, rfl, resolved⟩
      exact ⟨rfl, resolved⟩
    · rintro ⟨rfl, resolved⟩
      exact ⟨asked, content, rfl, resolved⟩
  have read : p.outcome = "plan" ↔
      (e.plan? (e.forwarded r) (e.asked r) given).isSome = true := by
    rw [tells.outcome_eq_plan_iff, Option.isSome_iff_exists]
    constructor
    · rintro ⟨entries, resolved⟩
      exact ⟨(assemblage, entries), (planned assemblage entries).2 ⟨rfl, resolved⟩⟩
    · rintro ⟨⟨other, entries⟩, chosen⟩
      exact ⟨entries, ((planned other entries).1 chosen).2⟩
  refine ⟨⟨assemblage, ruled, tells⟩, read, ?_, ?_⟩
  · intro other σ o s next replied
    have unplanned : e.plan? (e.forwarded r) (e.asked r) given = none := by
      rw [← Option.not_isSome_iff_eq_none]
      exact fun chosen => other (read.2 chosen)
    rw [Engine.process_of_ok replied, Engine.answer, unplanned]
    rfl
  · intro other entries chosen
    -- A plan is stored in the order of the matchers and consumed from its end.
    refine ⟨entries.reverse, ?_, fun σ a depth text => rfl⟩
    rw [((planned other entries).1 chosen).2] at tells
    cases tells with
    | plan outcome steps => exact steps

theorem check_of_reported {path : String} {content : Option Bytes} {config : Config}
    {catalog : Catalog} {o : CheckOptions} {report : CheckReport}
    (loaded : loadConfig path content = .ok config) (compiled : compileRules config = .ok catalog)
    (reported : CheckReport.ofCatalog path catalog o = .ok report) :
    check path content o = .ok (report.render o.json) := by
  unfold check
  rw [loaded]
  change (compileRules config >>= _) = _
  rw [compiled]
  change (CheckReport.ofCatalog path catalog o >>= _) = _
  rw [reported]
  rfl

/-- A check reports the plan that the engine follows when a request for the same resource lists the
same names, however these are written, and the origin answers with content of the same type. -/
theorem check_foretells {path : String} {content : Option Bytes} {config : Config}
    {catalog : Catalog} {o : CheckOptions} {uri : String}
    (loaded : loadConfig path content = .ok config) (compiled : compileRules config = .ok catalog)
    (previewed : o.uri = some uri) (ruled : (catalog.assemblage o.contentType).isSome = true)
    (isName : ∀ name ∈ o.names, RequestedName.IsName name) (asked : o.names ≠ [])
    (once : o.names.Nodup) {r : Request} {header value : String} {given : Response}
    (method : r.method = o.method) (resource : r.uri = Text.dropSlashes uri)
    (headers : r.headers = .ofList [(header, value)])
    (named : Text.sameIgnoringCase header config.settings.triggerHeader = true)
    (lists : RequestedName.Lists value o.names) (delivered : given.hasContent = true)
    (typed : (MediaType.parse (given.contentType.getD "")).media =
      (MediaType.parse o.contentType).media) :
    ∃ (printed : String) (plan : PlanReport),
      check path content o = .ok printed ∧ plan.Printed o.json printed ∧
        (plan.method = Text.upper o.method ∧ plan.uri = Text.dropSlashes uri ∧
          plan.names = o.names) ∧
        plan.Foretells ⟨catalog.toRepository, config.settings⟩ r given := by
  obtain ⟨assemblage, found⟩ := Option.isSome_iff_exists.1 ruled
  have names : Engine.asked ⟨catalog.toRepository, config.settings⟩ r = o.names := by
    unfold Engine.asked
    rw [headers]
    exact RequestedName.requestedNames_of_lists named lists isName asked once
  -- Without the trigger header no header is left, as in the check.
  have bare : (Engine.forwarded ⟨catalog.toRepository, config.settings⟩ r).headers = .empty := by
    simp [Engine.forwarded, headers, Headers.erase, Headers.ofList, Headers.isNamed, named,
      Headers.empty]
  have reported : CheckReport.ofCatalog path catalog o = .ok ⟨path,
      catalog.entries.map CatalogEntry.summary,
      some (CheckReport.planOf catalog assemblage o uri)⟩ := by
    unfold CheckReport.ofCatalog
    simp only [previewed, found]
  refine ⟨_, _, check_of_reported loaded compiled reported,
    PlanReport.printed_render _ path _ o.json, ⟨rfl, rfl, rfl⟩, ?_⟩
  have resolution : Engine.resolution ⟨catalog.toRepository, config.settings⟩ r assemblage =
      catalog.toRepository.resolve assemblage o.method (Text.dropSlashes uri) .empty o.names
        false := by
    rw [Engine.resolution, names, bare, ← method, ← resource]
    rfl
  apply PlanReport.foretells_of_resolution (names ▸ asked) delivered
    ((Catalog.assemblage_of_media typed).trans found)
  rw [resolution]
  exact PlanReport.tells_of_eq rfl rfl

/-- A configuration in UTF-8 is read as its text. -/
theorem Config.load_encode (text : String) :
    Config.load (some (Utf8.encode text.toList)) = Config.parse text := by
  simp only [load, Option.bind_some, Utf8.decode?_encode, String.ofList_toList]

/-- Rules for a page with boxes, which refer to other pages. -/
def boxRules : AssemblageRule where
  id := "html"
  contentTypes := ["text/html"]
  errors := []
  adjusters := []
  resources := [⟨"GET", "page", [], [⟨some "box", "<box>", some "=(.)", []⟩]⟩]

def boxRulesText : String :=
  "assemblages:\n- id: html\n  content_types: [text/html]\n  resources:\n  - uri: page\n" ++
    "    matchers:\n    - name: box\n      pattern: <box>\n      reference: =(.)"

theorem loadConfig_boxRules : loadConfig "rules.yml" (some (Utf8.encode boxRulesText.toList)) =
    .ok ⟨default, default, [boxRules]⟩ := by
  have parsed : Config.parse boxRulesText = .ok ⟨default, default, [boxRules]⟩ := by
    decide +kernel
  rw [loadConfig, Config.load_encode, parsed]

/-- A check of the page with a name below the boxes and one that nobody knows. -/
def boxPreview : CheckOptions where
  contentType := "text/html; charset=utf-8"
  uri := some "//page"
  method := "get"
  names := ["note", "box.title"]
  json := false

/-- A request for the page that lists the same names, with an attribute and an empty entry. -/
def boxRequest : Request :=
  { Request.make "get" "/page" with headers := .ofList [("x-filter", ",note ;q=1, box.title")] }

theorem lists_boxRequest : RequestedName.Lists ",note ;q=1, box.title" boxPreview.names := by
  refine ⟨[([], none), (['n', 'o', 't', 'e', ' ', ';', 'q', '=', '1'], some "note"),
    ([' ', 'b', 'o', 'x', '.', 't', 'i', 't', 'l', 'e'], some "box.title")], ?_, by decide, rfl⟩
  simp only [List.forall_mem_cons]
  have empty : RequestedName.IsTail [] := ⟨by simp, by simp⟩
  have blank : Text.isBlank ' ' = true := by decide
  refine ⟨@RequestedName.Requests.nothing [] [] (by simp) empty, ?_, ?_, by simp⟩
  · exact @RequestedName.Requests.name [] [' '] [';', 'q', '=', '1'] "note"
      (by simpa using blank) ⟨by decide, by simp⟩
  · exact @RequestedName.Requests.name [' '] [] [] "box.title" (by simpa using blank) empty

theorem check_foretells_boxes :
    ∃ (catalog : Catalog) (printed : String) (plan : PlanReport),
      compileRules ⟨default, default, [boxRules]⟩ = .ok catalog ∧
      check "rules.yml" (some (Utf8.encode boxRulesText.toList)) boxPreview = .ok printed ∧
      plan.Printed false printed ∧
      (plan.method = "GET" ∧ plan.uri = "page" ∧ plan.names = ["note", "box.title"]) ∧
      plan.Foretells ⟨catalog.toRepository, default⟩ boxRequest (.ok "text/html" []) := by
  have compiles : (match compileRules ⟨default, default, [boxRules]⟩ with
      | .ok catalog => (catalog.assemblage boxPreview.contentType).isSome
      | .error _ => false) = true := by
    decide +kernel
  have isName : ∀ name ∈ boxPreview.names, RequestedName.IsName name := by
    simp only [boxPreview, List.forall_mem_cons]
    exact ⟨⟨by decide, by decide, by decide, by decide⟩,
      ⟨by decide, by decide, by decide, by decide⟩, by simp⟩
  cases compiled : compileRules ⟨default, default, [boxRules]⟩ with
  | error fault =>
    rw [compiled] at compiles
    cases compiles
  | ok catalog =>
    rw [compiled] at compiles
    obtain ⟨printed, plan, checked, shown, ⟨method, resource, names⟩, foretells⟩ :=
      @check_foretells _ _ _ _ boxPreview "//page" loadConfig_boxRules compiled rfl compiles isName
        (by decide) (by decide) boxRequest "x-filter" _ (.ok "text/html" []) rfl (by decide) rfl
        (by decide) lists_boxRequest rfl (by decide)
    exact ⟨catalog, printed, plan, rfl, checked, shown,
      ⟨method.trans (by decide), resource.trans (by decide), names⟩, foretells⟩

end Transclusion
