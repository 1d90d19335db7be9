import Transclusion.Charset.Basic
import Transclusion.Origin

/-!
# Reading content

Content is read into memory up to a limit and decoded by its charset. A referenced resource is
fetched and its content taken out; the content of the response that is to be assembled is read in
place, so that whatever prevents the reading leaves a response that still delivers the same
content.
-/

namespace Transclusion

/-- How content is read. -/
structure ContentReader where
  /-- The most bytes that are read. -/
  maxLength : Nat
  /-- The charset of content that declares none. -/
  defaultCharset : String
deriving DecidableEq, Repr, Inhabited

/-- Decoded content with the charset it came in. -/
structure Decoded where
  text : String
  charset : Charset
deriving DecidableEq, Repr

namespace ContentReader

def charsetOf (c : ContentReader) (r : Response) : Except FetchFailure Charset :=
  let label := r.charset.getD c.defaultCharset
  match Charset.lookup? label with
  | some charset => .ok charset
  | none => .error (.unknownCharset label)

/-- Refuse a response that declares more than the limit. -/
def checkDeclared (c : ContentReader) (r : Response) : Except FetchFailure Unit :=
  match r.length with
  | some n => if c.maxLength < n then .error (.tooLarge c.maxLength) else .ok ()
  | none => .ok ()

/-- The failure that a response without usable content stands for. -/
def failureOf (r : Response) : FetchFailure := .failed r.status r.text

/-- The decoded content of a response. Without success and content it has none; the charset has to
be known before the size matters. -/
def contentOf (c : ContentReader) (r : Response) : Except FetchFailure String :=
  if !r.hasContent then .error (failureOf r)
  else do
    let charset ← c.charsetOf r
    c.checkDeclared r
    match r.source with
    | none => .error (failureOf r)
    | some source =>
      match (source.readBounded c.maxLength).1 with
      | .complete bytes => .ok (String.ofList (charset.decode bytes))
      | .exceeded _ => .error (.tooLarge c.maxLength)
      | .interrupted _ fault => .error (.unreadable fault.message)

/-- Fetch a resource and read its content. -/
def fetch {σ : Type} (c : ContentReader) (o : Origin σ) (r : Request) :
    Run σ (Except FetchFailure String) := do
  let reply ← Run.dispatch o r
  return reply.bind c.contentOf

/-- Read the content of a response and keep it in the response, with its length. If that fails, the
response delivers the same content as before, up to and with the same fault. -/
def buffer (c : ContentReader) (r : Response) : Except FetchFailure Decoded × Response :=
  -- An unknown charset is reported even if the declared length is too large.
  match c.charsetOf r, c.checkDeclared r with
  | .error f, _ => (.error f, r)
  | .ok _, .error f => (.error f, r)
  | .ok charset, .ok _ =>
    match r.source with
    | none => (.error (failureOf r), r)
    | some source =>
      match (source.readBounded c.maxLength).1 with
      | .complete bytes =>
        (.ok ⟨String.ofList (charset.decode bytes), charset⟩,
          { r with length := some bytes.length, source := some (.buffered bytes) })
      | .exceeded rest => (.error (.tooLarge c.maxLength), { r with source := some rest })
      | .interrupted rest fault =>
        (.error (.unreadable fault.message), { r with source := some rest })

end ContentReader

end Transclusion
