import Transclusion.Command.Rules
import Transclusion.Proxy.Basic

/-!
# Serving

A server is prepared from a configuration and the options that override it: the rules are compiled
and the backend is found before anything is listened on.
-/

namespace Transclusion

/-- What overrides the configuration of a server. -/
structure ServeOptions where
  listen : Option String
  backend : Option String
  maxContentLength : Option Nat
  maxRequestBody : Option Nat
deriving DecidableEq, Repr, Inhabited

/-- A configuration with what overrides it. -/
def ServeOptions.override (o : ServeOptions) (c : Config) : Config :=
  { c with
    server :=
      { listenAddress := o.listen.getD c.server.listenAddress
        backend := o.backend.or c.server.backend
        maxRequestBody := o.maxRequestBody.getD c.server.maxRequestBody }
    settings :=
      { c.settings with
        maxContentLength := o.maxContentLength.getD c.settings.maxContentLength } }

/-- Everything a server needs before it listens. -/
structure Server where
  address : String
  backend : Backend
  proxy : Proxy

/-- Prepare a server from a configuration. -/
def Server.ofConfig (c : Config) : Except CommandFault Server :=
  match c.server.backend with
  | none => .error .noBackend
  | some text => do
    let catalog ← compileRules c
    match Backend.parse? text with
    | none => .error (.badBackend text)
    | some backend =>
      .ok ⟨c.server.listenAddress, backend,
        ⟨⟨catalog.toRepository, c.settings⟩, c.server.maxRequestBody⟩⟩

/-- Prepare a server from the configuration at a path with the given content. -/
def prepareServer (path : String) (content : Option Bytes) (o : ServeOptions) :
    Except CommandFault Server := do
  let config ← loadConfig path content
  Server.ofConfig (o.override config)

end Transclusion
