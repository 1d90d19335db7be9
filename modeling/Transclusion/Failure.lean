/-!
# Failures

Why a fetch gave no usable content, and why a scope is left unassembled. A fetch failure renders
to a status and a text, which the error slots of an assemblage write into the failed block.
-/

namespace Transclusion

/-- Why a fetch produced no usable content. -/
inductive FetchFailure where
  /-- The origin answered without success or without content. -/
  | failed (status : Nat) (text : Option String)
  /-- The content is in a charset nobody knows. -/
  | unknownCharset (label : String)
  /-- The content is, or is declared to be, longer than allowed. -/
  | tooLarge (maximum : Nat)
  /-- No answer could be had. -/
  | transport (reason : String)
  /-- The content broke off while it was read. -/
  | unreadable (reason : String)
deriving DecidableEq, Repr, Inhabited

namespace FetchFailure

/-- The status reported for content that cannot be used (Expectation Failed). -/
def expectationFailed : Nat := 417

/-- The status reported when the origin could not be read (Bad Gateway). -/
def badGateway : Nat := 502

/-- The status a failure stands for. -/
def status : FetchFailure → Nat
  | failed status _ => status
  | unknownCharset _ | tooLarge _ => expectationFailed
  | transport _ | unreadable _ => badGateway

/-- The reason text a failure stands for. -/
def text : FetchFailure → String
  | failed _ text => text.getD ""
  | unknownCharset _ => "Unknown encoding"
  | tooLarge _ => "Response too large"
  | transport _ | unreadable _ => "Bad Gateway"

/-- The full message of a failure. -/
def message : FetchFailure → String
  | failed status text => s!"Fetch failed with {status}: " ++ text.getD ""
  | unknownCharset label => "Unknown encoding: " ++ label
  | tooLarge maximum => s!"Response too large: exceeds {maximum} bytes"
  | transport reason => "Transport error: " ++ reason
  | unreadable reason => "Failed to read content: " ++ reason

end FetchFailure

/-- Why a scope is left unassembled. None of these fails the outer request. -/
inductive ScopeNotice where
  | noReference
  | noMatchers (uri : String)
  | noAssemblage (contentType : String)
  | unencodable (charset : String)
  | fetch (failure : FetchFailure)
deriving DecidableEq, Repr, Inhabited

namespace ScopeNotice

/-- The message of a notice; that of a fetch failure is passed on as it is. -/
def message : ScopeNotice → String
  | noReference => "No URI reference located in block"
  | noMatchers uri => "No matchers for URI " ++ uri
  | noAssemblage contentType => "No assemblage for content type " ++ contentType
  | unencodable charset => s!"Assembled content has characters {charset} cannot represent"
  | fetch failure => failure.message

end ScopeNotice

end Transclusion
