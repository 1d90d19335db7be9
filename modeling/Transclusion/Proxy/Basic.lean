import Transclusion.Backend
import Transclusion.Engine
import Transclusion.Proxy.Target

/-!
# The proxy

HTTP requests become requests of the engine, and its responses become HTTP responses. Request bodies
are limited; headers that describe a connection are left out on the way back, and the length of the
content is stated by the proxy itself.

## Main results

`Proxy.finish_status`: what is done to every response on the way out leaves its status alone.
-/

namespace Transclusion

/-- An HTTP request. Header names are in lower case. -/
structure HttpRequest where
  method : String
  target : Target
  headers : Headers
  body : Source
deriving Repr

/-- An HTTP response. Header names are in lower case; a buffered body has a known size. -/
structure HttpResponse where
  status : Nat
  headers : Headers
  body : Source
deriving DecidableEq, Repr

namespace HttpRequest

/-- A request with the given parts, if they keep to the grammar. -/
def make? (method target : String) (headers : List (String × String)) (body : Source) :
    Option HttpRequest := do
  let target ← Target.parse? target
  if Grammar.isToken method &&
      headers.all fun (name, value) => Grammar.isToken name && Grammar.isFieldValue value then
    some ⟨method, target, .ofList (headers.map fun (n, v) => (Text.lower n, v)), body⟩
  else none

/-- The headers whose values can be read as text. -/
def plainHeaders (r : HttpRequest) : Headers :=
  .ofList (r.headers.toList.filter fun (_, value) => Grammar.isPlainValue value)

/-- The length that a request declares: its first Content-Length header, if that is a number. -/
def declaredLength? (r : HttpRequest) : Option Nat :=
  ((r.headers.get? "content-length").filter Grammar.isPlainValue).bind fun v => Text.word? v.toList

/-- The engine's request for an HTTP request with the given body. -/
def toRequest (r : HttpRequest) (body : Bytes) : Request :=
  { Request.make r.method r.target.path with
    scheme := r.target.scheme.getD "http"
    parameters := (r.target.query.map fun q => Form.parse q.toList).getD []
    headers := r.plainHeaders
    body := if body.isEmpty then none else some body }

end HttpRequest

namespace HttpResponse

/-- A response with a short text. -/
def plain (status : Nat) (text : String) : HttpResponse :=
  ⟨status, .ofList [("content-type", "text/plain; charset=utf-8")],
    .buffered (Utf8.encode text.toList)⟩

/-- The size of a body, if it is known. -/
def size? (r : HttpResponse) : Option Nat :=
  match r.body with
  | .buffered bytes => some bytes.length
  | .stream _ => none

def withoutBody (r : HttpResponse) : HttpResponse := { r with body := .buffered [] }

/-- With a Content-Length header, if the size is known and there is no such header yet. -/
def withLength (r : HttpResponse) : HttpResponse :=
  match r.size? with
  | some n =>
    if r.headers.contains "content-length" then r
    else { r with headers := r.headers.append "content-length" (toString n) }
  | none => r

def isPassedOn (entry : String × String) : Bool :=
  !isHopByHop entry.1 && !Text.sameIgnoringCase entry.1 "content-length"

/-- The status that is sent: one outside the range of HTTP stands for a broken origin. -/
def statusOf (status : Nat) : Nat :=
  if 100 ≤ status ∧ status < 1000 then status else FetchFailure.badGateway

/-- The body that is sent: the content, or else the reason of a response without success. -/
def bodyOf (r : Response) : Source :=
  match r.source with
  | some source => source
  | none =>
    match r.text with
    | some text =>
      if Transclusion.isSuccess (statusOf r.status) then .buffered []
      else .buffered (Utf8.encode text.toList)
    | none => .buffered []

/-- The headers that are sent: those of the origin that are passed on, and the length of the
content. -/
def headersOf (r : Response) : List (String × String) :=
  r.headers.toList.filter isPassedOn ++
    (match r.length with
      | some n => [("content-length", toString n)]
      | none => [])

/-- The HTTP response for a response of the engine. If a header cannot be sent, the whole response
is given up. -/
def ofResponse (r : Response) : HttpResponse :=
  let headers := headersOf r
  -- A single header that cannot be sent gives up the whole response.
  if headers.all fun (name, value) => Grammar.isToken name && Grammar.isFieldValue value then
    ⟨statusOf r.status, .ofList (headers.map fun (n, v) => (Text.lower n, v)), bodyOf r⟩
  else plain FetchFailure.badGateway "Bad Gateway"

end HttpResponse

/-- A server in front of an origin. -/
structure Proxy where
  engine : Engine
  /-- The most bytes of a request body that are accepted. -/
  maxRequestBody : Nat

namespace Proxy

variable {σ : Type}

/-- The path under which the proxy tells that it is alive. -/
def healthPath : String := "/_assemblage/health"

/-- The answer under the health path, which can only be read. -/
def health (method : String) : HttpResponse :=
  if method = "GET" ∨ method = "HEAD" then .plain 200 "ok"
  else ⟨405, .ofList [("allow", "GET,HEAD")], .buffered []⟩

/-- The answer to a request whose body is too large or cannot be read. -/
def tooLarge : HttpResponse := .plain 413 "Request body too large"

/-- The body of a request, if its declared and its actual length are within the limit. -/
def acceptBody? (p : Proxy) (r : HttpRequest) : Option Bytes :=
  -- A declared length that is no number, or too small, changes nothing.
  if r.declaredLength?.any fun n => p.maxRequestBody < n then none
  else
    match (r.body.readBounded p.maxRequestBody).1 with
    | .complete bytes => some bytes
    | _ => none

/-- Pass a request on to the engine. -/
def forward (p : Proxy) (o : Origin σ) (r : HttpRequest) : Run σ HttpResponse :=
  match p.acceptBody? r with
  | none => return tooLarge
  | some body => do return .ofResponse (← p.engine.process o (r.toRequest body))

/-- What is done to every response on the way out. A connection that is opened has no content;
else the length is stated, and a request for the head alone gets no body. -/
def finish (method : String) (r : HttpResponse) : HttpResponse :=
  if method = "CONNECT" ∧ isSuccess r.status then
    if r.headers.contains "content-length" || r.size?.getD 0 != 0 then r.withoutBody else r
  else if method = "HEAD" then r.withLength.withoutBody
  else r.withLength

def handle (p : Proxy) (o : Origin σ) (r : HttpRequest) : Run σ HttpResponse := do
  if r.target.path = healthPath then return finish r.method (health r.method)
  else return finish r.method (← p.forward o r)

/-- What is done to every response on the way out leaves its status alone. -/
theorem finish_status (method : String) (r : HttpResponse) :
    (finish method r).status = r.status := by
  have h : r.withLength.status = r.status := by
    unfold HttpResponse.withLength
    split
    · split <;> rfl
    · rfl
  unfold finish
  split
  · split <;> rfl
  · split <;> exact h

end Proxy

end Transclusion
