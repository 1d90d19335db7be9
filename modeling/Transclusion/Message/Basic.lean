import Transclusion.Message.Body
import Transclusion.Message.Headers

/-!
# Requests and responses

The plain messages exchanged between the engine, an origin and the proxy. The URI of a request is
the path of a resource without its leading slashes.
-/

namespace Transclusion

/-- Query parameters in the order they appeared. -/
abbrev Parameters := List (String × String)

/-- The method of every fetch made on behalf of a reference. -/
def fetchMethod : String := "GET"

/-- A request on its way to an origin. -/
structure Request where
  scheme : String
  method : String
  uri : String
  parameters : Parameters
  headers : Headers
  body : Option Bytes
deriving DecidableEq, Repr, Inhabited

namespace Request

/-- A request without headers, parameters and body; the URI loses its leading slashes. -/
def make (method uri : String) : Request where
  scheme := "http"
  method := method
  uri := Text.dropSlashes uri
  parameters := []
  headers := .empty
  body := none

/-- The request made on behalf of a reference. -/
def fetch (uri scheme : String) (headers : Headers) (parameters : Parameters) : Request :=
  { make fetchMethod uri with scheme := scheme, headers := headers, parameters := parameters }

end Request

/-- Whether a status reports success (2xx). -/
def isSuccess (status : Nat) : Bool := 200 ≤ status && status < 300

/-- The answer of an origin. -/
structure Response where
  status : Nat
  /-- Reason text reported alongside the status. -/
  text : Option String
  headers : Headers
  /-- Media type without parameters. -/
  contentType : Option String
  charset : Option String
  /-- Declared content length in bytes. -/
  length : Option Nat
  source : Option Source
deriving DecidableEq, Repr, Inhabited

namespace Response

/-- A response without content. -/
def make (status : Nat) : Response :=
  ⟨status, none, .empty, none, none, none, none⟩

/-- A successful response with buffered content. -/
def ok (contentType : String) (body : Bytes) : Response :=
  { make 200 with
    contentType := some contentType, length := some body.length, source := some (.buffered body) }

def withText (r : Response) (text : String) : Response := { r with text := some text }

def withCharset (r : Response) (charset : String) : Response := { r with charset := some charset }

def withHeader (r : Response) (name value : String) : Response :=
  { r with headers := r.headers.append name value }

def isSuccess (r : Response) : Bool := Transclusion.isSuccess r.status

def hasContent (r : Response) : Bool := r.isSuccess && r.source.isSome

end Response

end Transclusion
