import Transclusion.Proofs.Engine.Untouched
import Transclusion.Proofs.Proxy.Answers

/-!
# Framing

Where the body of an answer ends. Content that has been read for assembly may have grown or shrunk,
so the length that the origin stated, and its headers for the framing of a message, must not reach
the client. Whatever headers come back with such content, the answer states the length of what it
sends, once, and has no header for the connection.

## Main results

`handle_framed`: answers with content that has been read as a whole are framed by their length.
-/

namespace Transclusion

namespace HttpResponse

/-- Whether an answer is framed by its length: the body is in memory, its size is stated once, and no
header describes the connection. -/
structure Framed (answer : HttpResponse) : Prop where
  length : ∃ bytes, answer.body = .buffered bytes ∧
    answer.headers.getAll "content-length" = [toString bytes.length]
  lasting : ∀ name, OfConnection name → answer.headers.getAll name = []

theorem framed_plain (status : Nat) (text : String) : (plain status text).withLength.Framed := by
  constructor
  · refine ⟨Utf8.encode text.toList, withLength_body, ?_⟩
    have unstated : (plain status text).headers.getAll "content-length" = [] := by
      change (Headers.ofList _).getAll _ = _
      decide
    exact getAll_withLength_of_unstated unstated
  · intro name connection
    have hop := isHopByHop_iff.2 connection
    have length : Text.sameIgnoringCase "content-length" name = false :=
      sameIgnoringCase_of_isHopByHop hop (by decide)
    have type : Text.sameIgnoringCase "content-type" name = false :=
      sameIgnoringCase_of_isHopByHop hop (by decide)
    rw [getAll_withLength_other length]
    simp [plain, Headers.getAll, Headers.ofList, Headers.isNamed, type]

variable {r : Response} {out : Bytes}

theorem framed_of_sendable (sendable : Sendable r) (length : r.length = some out.length)
    (content : r.source = some (.buffered out)) : (ofResponse r).withLength.Framed := by
  constructor
  · refine ⟨out, ?_, ?_⟩
    · rw [withLength_body, ofResponse_of_sendable sendable, bodyOf, content]
    · rw [getAll_answer_length sendable, length]
      rfl
  · intro name connection
    exact getAll_answer_hopByHop sendable (isHopByHop_iff.2 connection)

end HttpResponse

namespace Proxy

variable {σ : Type}

/-- Content that has been read as a whole is sent with its length, whether it is assembled content or
the content of the origin. Where a header cannot be sent, the same holds for the answer that tells so. -/
theorem handle_framed (p : Proxy) (o : Origin σ) (r : HttpRequest) (s : σ) {bytes : Bytes}
    {given : Response} {next : σ} {assemblage : Assemblage} {plan : List PlanEntry}
    {decoded : Decoded} (admits : p.Admits r bytes) (notHead : r.method ≠ "HEAD")
    (notConnect : r.method ≠ "CONNECT")
    (assembles : p.engine.Assembles o (r.toRequest bytes) s given next assemblage plan decoded) :
    (p.handle o r s).value.Framed ∧
    (HttpResponse.Sendable given →
      (p.handle o r s).value.status = given.status ∧
      some (p.handle o r s).value.body =
        (p.engine.process o (r.toRequest bytes) s).value.source) ∧
    (¬ HttpResponse.Sendable given →
      (p.handle o r s).value = (HttpResponse.plain 502 "Bad Gateway").withLength) := by
  obtain ⟨out, response⟩ := Engine.value_of_assembles assembles
  obtain ⟨-, content, -, -⟩ := (Engine.plan?_eq_some_iff _ _ _ _ _ _).1 assembles.planned
  have success : isSuccess given.status = true := (Bool.and_eq_true_iff.1 content).1
  rw [handle_of_admits admits notHead notConnect]
  dsimp only
  rw [response]
  -- Only the length and the content differ from those of the origin, so its headers are sent.
  have same : HttpResponse.Sendable
      { given with length := some out.length, source := some (.buffered out) } ↔
        HttpResponse.Sendable given := Iff.rfl
  by_cases sendable : HttpResponse.Sendable given
  · refine ⟨HttpResponse.framed_of_sendable (same.2 sendable) rfl rfl, ?_, absurd sendable⟩
    intro _
    rw [HttpResponse.withLength_status, HttpResponse.withLength_body,
      HttpResponse.ofResponse_of_sendable (same.2 sendable)]
    exact ⟨HttpResponse.statusOf_of_isSuccess success, rfl⟩
  · rw [HttpResponse.ofResponse_of_not_sendable (mt same.1 sendable)]
    refine ⟨HttpResponse.framed_plain _ _, fun able => absurd able sendable, ?_⟩
    intro _
    rfl

/-- A page whose headers and length are not those of its content. -/
def misframed : Response where
  status := 200
  text := none
  headers := .ofList [("Content-Length", "7"), ("Transfer-Encoding", "chunked"),
    ("content-length", "none"), ("Connection", "keep-alive"), ("ETag", "1")]
  contentType := some "text/html"
  charset := none
  length := some 99
  source := some (.stream [.chunk (Utf8.encode "a<b>c".toList), .chunk []])

theorem handle_framed_misframed :
    let p : Proxy := ⟨Engine.always Assembly.link, 0⟩
    let o : Origin Unit := .stateless fun seen =>
      if seen.uri = "b" then .ok (.ok "text/html" (Utf8.encode "longer".toList)) else .ok misframed
    let r : HttpRequest :=
      ⟨"GET", ⟨none, "/page", none⟩, .ofList [("x-filter", "frame")], .buffered []⟩
    (p.handle o r ()).value.Framed ∧
      (p.handle o r ()).value.body = .buffered (Utf8.encode "alongerc".toList) := by
  intro p o r
  have admits : p.Admits r [] := by
    refine ⟨by decide, ?_, rfl, by decide⟩
    intro n declared
    cases declared
  have other : (r.toRequest []).uri ≠ "b" := by decide +kernel
  have replied : o.reply () (p.engine.forwarded (r.toRequest [])) = (.ok misframed, ()) :=
    congrArg (·, ()) (if_neg other)
  have assembles : p.engine.Assembles o (r.toRequest []) () misframed () (.make "page")
      [.select Assembly.link ["frame"]] ⟨"a<b>c", .utf8⟩ :=
    Engine.assembles_always rfl (by decide +kernel) rfl (by decide +kernel) replied
      (by decide +kernel)
  exact ⟨(handle_framed p o r () admits (by decide) (by decide) assembles).1, by decide +kernel⟩

end Proxy

end Transclusion
