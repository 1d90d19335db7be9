import Transclusion.Assemblage
import Transclusion.Message.Headers
import Transclusion.Message.MediaType
import Transclusion.Plan

/-!
# Repositories

Where the rules for a response come from. A repository finds the assemblage of a content type and
the matchers of a resource; a catalog is one that is held in memory, usually compiled from a
configuration.
-/

namespace Transclusion

/-- A source of rules. -/
structure Repository where
  /-- The matchers of a resource in order, `none` when nothing is configured. -/
  matchers : Assemblage → String → String → Headers → Option (List Matcher)
  /-- The assemblage bound to a content type. -/
  assemblage : String → Option Assemblage

/-- Resources that share one list of matchers. -/
structure Resource where
  method : String
  /-- Tested on the path without its leading slashes. -/
  uri : Pattern
  /-- Every header named here must have a value that its pattern matches. -/
  headers : List (String × Pattern)
  matchers : List Matcher
deriving Repr, Inhabited

/-- Whether a resource covers a request. -/
def Resource.applies (r : Resource) (method uri : String) (headers : Headers) : Bool :=
  Text.sameIgnoringCase r.method method && r.uri.isMatch uri &&
    r.headers.all fun (name, pattern) => (headers.getAll name).any pattern.isMatch

/-- An assemblage with the content types it is for and its resources. -/
structure CatalogEntry where
  assemblage : Assemblage
  contentTypes : List String
  resources : List Resource
deriving Repr, Inhabited

/-- An ordered list of assemblages; the first that fits is used. -/
structure Catalog where
  entries : List CatalogEntry
deriving Repr, Inhabited

namespace Catalog

def empty : Catalog := ⟨[]⟩

def isEmpty (c : Catalog) : Bool := c.entries.isEmpty

/-- Add an assemblage at the end; its content types are trimmed and put into lower case. -/
def insert (c : Catalog) (assemblage : Assemblage) (contentTypes : List String)
    (resources : List Resource) : Catalog :=
  ⟨c.entries ++ [⟨assemblage, contentTypes.map fun t => Text.lower (Text.trim t), resources⟩]⟩

/-- The assemblage whose content types include the media type of a value. -/
def assemblage (c : Catalog) (contentType : String) : Option Assemblage :=
  (c.entries.find? fun e => e.contentTypes.contains (MediaType.parse contentType).media).map
    (·.assemblage)

/-- The matchers of the first resource that applies, among those registered under the identity of
the assemblage; `none` when there is no such resource or it has no matchers. -/
def matchers (c : Catalog) (a : Assemblage) (method uri : String) (headers : Headers) :
    Option (List Matcher) :=
  match c.entries.find? fun e => e.assemblage.id == a.id with
  | none => none
  | some e =>
    match e.resources.find? fun r => r.applies method uri headers with
    | none => none
    -- A resource that applies but has no matchers hides the ones after it.
    | some r => if r.matchers.isEmpty then none else some r.matchers

def toRepository (c : Catalog) : Repository := ⟨c.matchers, c.assemblage⟩

end Catalog

end Transclusion
