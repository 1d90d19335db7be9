/-!
# Settings

What can be set for the engine and for the server, with the values that hold unless something else
is configured.
-/

namespace Transclusion

/-- How deep references nest unless something else is configured. -/
def defaultDepth : Nat := 8

structure Settings where
  /-- The header that names the sections to assemble. -/
  triggerHeader : String
  /-- The most bytes of content that are read for assembly. -/
  maxContentLength : Nat
  /-- The charset of content that declares none. -/
  defaultCharset : String
  /-- How deep references nest. -/
  maxDepth : Nat
deriving DecidableEq, Repr

instance : Inhabited Settings := ⟨⟨"X-Filter", 102400, "UTF-8", defaultDepth⟩⟩

structure ServerSettings where
  listenAddress : String
  /-- The URL that requests are forwarded to. -/
  backend : Option String
  /-- The most bytes of a request body that are accepted. -/
  maxRequestBody : Nat
deriving DecidableEq, Repr

instance : Inhabited ServerSettings := ⟨⟨"127.0.0.1:8080", none, 1048576⟩⟩

end Transclusion
