import Transclusion.Assembly
import Transclusion.Settings
import Transclusion.Trigger

/-!
# The engine

A request is passed to the origin without its trigger header. If names were requested and the
rules have a plan for them, the content of the response is assembled; anything that prevents this
leaves the response as the origin gave it.
-/

namespace Transclusion

/-- How these settings have content read. -/
def Settings.reader (s : Settings) : ContentReader := ⟨s.maxContentLength, s.defaultCharset⟩

/-- Rules and settings, which all requests share. -/
structure Engine where
  repository : Repository
  settings : Settings

namespace Engine

variable {σ : Type}

/-- The response that stands for a failed dispatch. -/
def failed (failure : FetchFailure) : Response :=
  (Response.make failure.status).withText failure.text

/-- The assembly of content for a request. -/
def assembly (e : Engine) (o : Origin σ) (assemblage : Assemblage) (r : Request) : Assembly σ where
  assemblage := assemblage
  repository := e.repository
  reader := e.settings.reader
  origin := o
  scheme := r.scheme
  headers := r.headers

/-- The assemblage and the plan for a response to a request, if there is anything to assemble. -/
def plan? (e : Engine) (r : Request) (names : List String) (response : Response) :
    Option (Assemblage × List PlanEntry) :=
  if names.isEmpty || !response.hasContent then none
  else
    match e.repository.assemblage (response.contentType.getD "") with
    | none => none
    | some assemblage =>
      match e.repository.resolve assemblage r.method r.uri r.headers names false with
      | .plan entries => some (assemblage, entries)
      | _ => none

/-- A response whose content is replaced by assembled text; text that its charset cannot represent
is given up. -/
def deliver (response : Response) (charset : Charset) (text : String) : Response :=
  match charset.encode? text.toList with
  | some bytes => { response with length := some bytes.length, source := some (.buffered bytes) }
  | none => response

/-- Assemble the content of a response by a plan. -/
def assembleContent (e : Engine) (o : Origin σ) (r : Request) (assemblage : Assemblage)
    (entries : List PlanEntry) (response : Response) : Run σ Response :=
  match e.settings.reader.buffer response with
  -- Whatever was read of the content is part of the response again.
  | (.error _, response) => return response
  | (.ok decoded, response) => do
    let fragments ← (e.assembly o assemblage r).assemble e.settings.maxDepth entries decoded.text
    return deliver response decoded.charset (String.join fragments)

/-- Answer a request. -/
def process (e : Engine) (o : Origin σ) (r : Request) : Run σ Response := do
  -- From here on nobody sees the trigger header, neither the origin nor the rules.
  let names := requestedNames r.headers e.settings.triggerHeader
  let r := { r with headers := r.headers.erase e.settings.triggerHeader }
  match ← Run.dispatch o r with
  | .error failure => return failed failure
  | .ok response =>
    match e.plan? r names response with
    | none => return response
    | some (assemblage, entries) => e.assembleContent o r assemblage entries response

end Engine

end Transclusion
