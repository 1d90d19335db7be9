import Transclusion.Charset.Utf8
import Transclusion.Config.Rules
import Transclusion.Document.Tree
import Transclusion.Message.Basic
import Transclusion.Settings

/-!
# Configurations

A configuration is a document with the settings of the server (`server`), those of the engine
(`assembler`) and the assemblages (`assemblages`). Everything may be left out but the parts that
an assemblage cannot do without; names that nobody knows are passed over, but no part may be given
twice.

## Main results

`Config.fault?_eq_none_iff`: what a configuration has to satisfy besides its form.
-/

namespace Transclusion

open Document (Node Tree)

/-- A configuration with every default filled in. -/
structure Config where
  server : ServerSettings
  settings : Settings
  assemblages : List AssemblageRule
deriving DecidableEq, Repr, Inhabited

namespace Config

/-! ### Reading parts -/

/-- The parts of a node under the names that are known, none of which may occur twice. -/
def parts? (t : Tree) (known : List String) (n : Node) : Option (List (String × Node)) := do
  let pairs ← t.pairs? n
  -- Unknown names are passed over, however often they occur.
  let parts := pairs.filter fun (name, _) => known.contains name
  if (parts.map (·.1)).Nodup then some parts else none

/-- Read a part that has to be there. -/
def required {α : Type} (parts : List (String × Node)) (name : String) (read : Node → Option α) :
    Option α :=
  (parts.find? fun (n, _) => n == name).bind fun (_, node) => read node

/-- Read a part that may be left out. -/
def optional {α : Type} (parts : List (String × Node)) (name : String) (read : Node → Option α)
    (fallback : α) : Option α :=
  match parts.find? fun (n, _) => n == name with
  | some (_, node) => read node
  | none => some fallback

/-- Read a list. -/
def list {α : Type} (t : Tree) (read : Node → Option α) (n : Node) : Option (List α) :=
  (t.items? n).bind (·.mapM read)

/-- Put a named value into a sorted list, in place of an earlier one of that name. -/
def insertNamed {α : Type} (name : String) (value : α) : List (String × α) → List (String × α)
  | [] => [(name, value)]
  | (n, v) :: rest =>
    if name < n then (name, value) :: (n, v) :: rest
    else if name = n then (name, value) :: rest
    else (n, v) :: insertNamed name value rest

/-- Read named values, sorted by name; of several with one name the last one counts. -/
def named {α : Type} (t : Tree) (read : Node → Option α) (n : Node) :
    Option (List (String × α)) := do
  let pairs ← t.pairs? n
  let values ← pairs.mapM fun (name, node) => (read node).map fun v => (name, v)
  some (values.foldl (fun sorted (name, v) => insertNamed name v sorted) [])

/-! ### Reading rules -/

/-- Read a replacer. -/
def replacer (t : Tree) (n : Node) : Option ReplacerRule := do
  let parts ← parts? t ["pattern", "template"] n
  some ⟨← required parts "pattern" t.text?, ← required parts "template" t.text?⟩

/-- Read a matcher. -/
def matcher (t : Tree) (n : Node) : Option MatcherRule := do
  let parts ← parts? t ["name", "pattern", "reference", "present"] n
  some
    { name := ← optional parts "name" t.optionalText? none
      pattern := ← required parts "pattern" t.text?
      reference := ← optional parts "reference" t.optionalText? none
      present := ← optional parts "present" (list t t.text?) [] }

/-- Read a resource. -/
def resource (t : Tree) (n : Node) : Option ResourceRule := do
  let parts ← parts? t ["method", "uri", "headers", "matchers"] n
  some
    { method := ← optional parts "method" t.text? fetchMethod
      uri := ← required parts "uri" t.text?
      headers := ← optional parts "headers" (named t t.text?) []
      matchers := ← optional parts "matchers" (list t (matcher t)) [] }

/-- Read an assemblage. -/
def assemblage (t : Tree) (n : Node) : Option AssemblageRule := do
  let parts ← parts? t ["id", "content_types", "errors", "adjusters", "resources"] n
  some
    { id := ← required parts "id" t.text?
      contentTypes := ← required parts "content_types" (list t t.text?)
      errors := ← optional parts "errors" (named t (replacer t)) []
      adjusters := ← optional parts "adjusters" (list t (replacer t)) []
      resources := ← optional parts "resources" (list t (resource t)) [] }

/-- Read the settings of the server. -/
def serverSettings (t : Tree) (n : Node) : Option ServerSettings := do
  let parts ← parts? t ["listen_addr", "upstream", "max_request_body"] n
  let d : ServerSettings := default
  some
    { listenAddress := ← optional parts "listen_addr" t.text? d.listenAddress
      backend := ← optional parts "upstream" t.optionalText? d.backend
      maxRequestBody := ← optional parts "max_request_body" t.word? d.maxRequestBody }

/-- Read the settings of the engine. -/
def engineSettings (t : Tree) (n : Node) : Option Settings := do
  let parts ← parts? t ["max_content_length", "trigger_header", "default_charset", "max_depth"] n
  let d : Settings := default
  some
    { triggerHeader := ← optional parts "trigger_header" t.text? d.triggerHeader
      maxContentLength := ← optional parts "max_content_length" t.word? d.maxContentLength
      defaultCharset := ← optional parts "default_charset" t.text? d.defaultCharset
      maxDepth := ← optional parts "max_depth" t.word? d.maxDepth }

/-- Read a configuration from a document. -/
def ofTree? (t : Tree) : Option Config := do
  let parts ← parts? t ["server", "assembler", "assemblages"] t.root
  some
    { server := ← optional parts "server" (serverSettings t) default
      settings := ← optional parts "assembler" (engineSettings t) default
      assemblages := ← optional parts "assemblages" (list t (assemblage t)) [] }

/-! ### Checking -/

/-- Whether a text is empty or blank. -/
def isBlank (s : String) : Bool := Text.trim s == ""

/-- What an assemblage lacks: it needs an identity and content types. -/
def ruleFault? (a : AssemblageRule) : Option ConfigFault :=
  if isBlank a.id then some (.missingField "assemblages[].id")
  else if a.contentTypes.isEmpty then some (.missingField s!"assemblages[{a.id}].content_types")
  else none

/-- What a configuration lacks: the trigger header comes first, then the assemblages in order. -/
def fault? (c : Config) : Option ConfigFault :=
  if isBlank c.settings.triggerHeader then some (.missingField "assembler.trigger_header")
  else c.assemblages.findSome? ruleFault?

/-- An assemblage lacks nothing if its identity is not blank and it has content types. -/
theorem ruleFault?_eq_none_iff (a : AssemblageRule) :
    ruleFault? a = none ↔ isBlank a.id = false ∧ a.contentTypes ≠ [] := by
  unfold ruleFault?
  split
  · simp_all
  · split <;> simp_all

/-- A configuration lacks nothing if its trigger header is not blank and no assemblage lacks
anything. -/
theorem fault?_eq_none_iff (c : Config) :
    c.fault? = none ↔ isBlank c.settings.triggerHeader = false ∧
      ∀ a ∈ c.assemblages, isBlank a.id = false ∧ a.contentTypes ≠ [] := by
  unfold fault?
  split
  · simp_all
  · simp_all [List.findSome?_eq_none_iff, ruleFault?_eq_none_iff]

/-- Read and check a configuration. -/
def parse (text : String) : Except ConfigFault Config :=
  match (Tree.read? text).bind ofTree? with
  | none => .error .malformed
  | some c =>
    match c.fault? with
    | some f => .error f
    | none => .ok c

/-- Read a configuration from the content of a file, if there is one; it has to be UTF-8. -/
def load (content : Option Bytes) : Except ConfigFault Config :=
  match content.bind Utf8.decode? with
  | none => .error .unreadable
  | some cs => parse (String.ofList cs)

/-- Compile all patterns. -/
def catalog (c : Config) : Except ConfigFault Catalog := compileCatalog c.assemblages

end Config

end Transclusion
