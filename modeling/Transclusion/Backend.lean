import Transclusion.Failure
import Transclusion.Message.Basic
import Transclusion.Message.Grammar
import Transclusion.Reference

/-!
# The backend

Where a proxied request goes: the base URL, resolution of resource paths against it, and the
checks that a request has to pass before a connection is made.
-/

namespace Transclusion

/-- Headers that describe a single connection and never travel further. -/
def hopByHop : List String :=
  ["connection", "keep-alive", "proxy-authenticate", "proxy-authorization", "te", "trailer",
    "transfer-encoding", "upgrade"]

/-- Whether a header describes a single connection. -/
def isHopByHop (name : String) : Bool := hopByHop.any (Text.sameIgnoringCase · name)

/-- Headers that the new connection sets itself; no coding is accepted, so that bodies arrive as
they are. -/
def replacedHeaders : List String := ["host", "content-length", "accept-encoding"]

/-- Whether a request header is sent on. -/
def isForwarded (name : String) : Bool :=
  !isHopByHop name && !replacedHeaders.any (Text.sameIgnoringCase · name)

/-- The server that requests are forwarded to. -/
structure Backend where
  base : Url
deriving Repr

namespace Backend

/-- The backend at a URL, whose path is made to end in a slash. -/
def parse? (text : String) : Option Backend :=
  match Url.parse none text with
  | .ok url => some ⟨{ url with path := url.path.closed }⟩
  | .error _ => none

/-- The URL of a resource. -/
def urlFor (b : Backend) (uri : String) : Except FetchFailure Url :=
  match b.base.join (Text.dropSlashes uri) with
  | .ok url => .ok url
  | .error fault => .error (.transport s!"Invalid URI {uri}: {fault.message}")

/-- The query of a URL with further pairs at its end. -/
def withParameters (query : Option String) (ps : Parameters) : Option String :=
  if ps.isEmpty then query
  else
    let more := String.ofList (Form.render ps)
    match query with
    | none => some more
    | some "" => some more
    | some q => some (q ++ "&" ++ more)

/-- A request as it is put on the wire. -/
structure Outgoing where
  method : String
  url : Url
  headers : List (String × String)
  body : Option Bytes
deriving Repr

/-- The schemes that a connection can be made for. -/
def connectable : List String := ["http", "https"]

/-- Prepare a request for the wire. It has to resolve to a URL that can be connected to, and its
method and the headers that are sent on have to keep to the grammar. -/
def prepare (b : Backend) (r : Request) : Except FetchFailure Outgoing := do
  let url ← b.urlFor r.uri
  -- Headers that are not sent on may hold anything.
  let headers := r.headers.toList.filter fun (name, _) => isForwarded name
  if !Grammar.isToken r.method then .error (.transport "invalid method")
  else if headers.any fun (name, _) => !Grammar.isToken name then
    .error (.transport "invalid header name")
  else if headers.any fun (_, value) => !Grammar.isFieldValue value then
    .error (.transport "invalid header value")
  else if !connectable.contains url.scheme then .error (.transport "scheme is not supported")
  else
    .ok ⟨r.method, { url with query := withParameters url.query r.parameters }, headers, r.body⟩

end Backend

end Transclusion
