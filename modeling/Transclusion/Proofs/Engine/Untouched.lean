import Transclusion.Proofs.Assembly.DepthLimit
import Transclusion.Proofs.Charset.RoundTrip
import Transclusion.Proofs.Engine.Assembled
import Transclusion.Proofs.Engine.Chunking

/-!
# Untouched content

What is delivered when assembly leaves a text as it was. The text is written in the charset that it
was read in, and if that cannot be done the original bytes are delivered. So the bytes come back as
they were if they are what the charset writes for some text, or if reading them gives a character
that the charset lacks. In the charsets of Unicode malformed bytes are read as replacement
characters and written as such. A charset of one byte per character never loses anything.

## Main results

`process_untouched`: which bytes are delivered as they were.
-/

namespace Transclusion.Engine

variable {σ : Type}

/-- If assembly gives the text back, the bytes that are delivered are those of the origin exactly
if they are well formed in their charset or their text cannot be written in it. In a charset of one
byte per character one of both is the case, and in one of Unicode every text can be written. -/
theorem process_untouched (e : Engine) (o : Origin σ) (r : Request) {s next : σ} {given : Response}
    {assemblage : Assemblage} {plan : List PlanEntry} {decoded : Decoded} {bytes : Bytes}
    (assembles : e.Assembles o r s given next assemblage plan decoded)
    (body : given.source.map Source.drain = some (bytes, none))
    (untouched : String.join (e.assembling o r assemblage plan decoded next).value = decoded.text) :
    (decoded.charset ≠ .opaqueText →
      ((e.process o r s).value.source = some (.buffered bytes) ↔
        decoded.charset.WellFormed bytes ∨
          decoded.charset.encode? (decoded.charset.decode bytes) = none)) ∧
    (decoded.charset.isSingleByte = true →
      (e.process o r s).value.source = some (.buffered bytes)) ∧
    (decoded.charset.isUnicode = true →
      ((e.process o r s).value.source = some (.buffered bytes) ↔
        decoded.charset.WellFormed bytes)) ∧
    -- The charset of labels that are refused has no texts of its own.
    (decoded.charset = .opaqueText →
      ((e.process o r s).value.source = some (.buffered bytes) ↔
        bytes = [] ∨ bytes = [0xEF, 0xBF, 0xBD])) := by
  obtain ⟨read, readable, text, -⟩ := assembles.readable
  have same : bytes = read :=
    (Prod.mk.inj (Option.some.inj (body.symm.trans readable.drained))).1
  subst same
  -- What is written is what has been read, so the charset alone decides what comes back.
  have source : (e.process o r s).value.source = some (.buffered
      ((decoded.charset.encode? (decoded.charset.decode bytes)).getD bytes)) := by
    rw [source_of_assembles assembles body, untouched, text, String.toList_ofList]
  have delivered_iff : (e.process o r s).value.source = some (.buffered bytes) ↔
      decoded.charset.encode? (decoded.charset.decode bytes) = some bytes ∨
        decoded.charset.encode? (decoded.charset.decode bytes) = none := by
    rw [source]
    cases decoded.charset.encode? (decoded.charset.decode bytes) <;> simp
  rw [delivered_iff]
  refine ⟨fun codec => ?_, fun single => ?_, fun unicode => ?_, fun refused => ?_⟩
  · rw [Charset.encode?_decode_iff codec]
  · exact Charset.encode?_decode_of_isSingleByte single bytes
  · have writable := Charset.isSome_encode? unicode (decoded.charset.decode bytes)
    rw [Charset.encode?_decode_iff (Charset.IsWhole.ne_opaqueText (.inl unicode)),
      or_iff_left (Option.isSome_iff_ne_none.1 writable)]
  · rw [refused, Charset.encode?_decode_opaqueText_iff]
    simp [Charset.encode?]

/-- An origin whose only page has the content `bytes`. -/
def onePage (bytes : Bytes) : Origin Unit := .stateless fun _ => .ok (.ok "text/html" bytes)

/-- A page without blocks comes back. -/
theorem process_untouched_of_umlaut :
    ((always Assembly.link).process (onePage (Utf8.encode "ä".toList)) framedPage ()).value.source =
      some (.buffered (Utf8.encode "ä".toList)) := by
  have assembles : (always Assembly.link).Assembles (onePage (Utf8.encode "ä".toList)) framedPage ()
      (.ok "text/html" (Utf8.encode "ä".toList)) () (.make "page")
      [.select Assembly.link ["frame"]] ⟨"ä", .utf8⟩ :=
    assembles_always rfl (by decide +kernel) rfl (by decide +kernel) rfl (by decide +kernel)
  have body : (Response.ok "text/html" (Utf8.encode "ä".toList)).source.map Source.drain =
      some (Utf8.encode "ä".toList, none) := by decide +kernel
  have delivered := process_untouched (always Assembly.link) _ framedPage assembles body
    (by decide +kernel)
  exact (delivered.1 (by decide)).2 (.inl ⟨"ä".toList, rfl⟩)

/-- A byte that no character starts with is read as a replacement character. The text stays, and the
three bytes of that character are delivered in place of the one. -/
theorem process_alters_malformed :
    (always Assembly.link).Assembles (onePage [0x61, 0xFF]) framedPage ()
      (.ok "text/html" [0x61, 0xFF]) () (.make "page") [.select Assembly.link ["frame"]]
      ⟨"a\uFFFD", .utf8⟩ ∧
    String.join ((always Assembly.link).assembling (onePage [0x61, 0xFF]) framedPage (.make "page")
      [.select Assembly.link ["frame"]] ⟨"a\uFFFD", .utf8⟩ ()).value = "a\uFFFD" ∧
    ((always Assembly.link).process (onePage [0x61, 0xFF]) framedPage ()).value.source =
      some (.buffered [0x61, 0xEF, 0xBF, 0xBD]) ∧
    ((always Assembly.link).process (onePage [0x61, 0xFF]) framedPage ()).value.source ≠
      some (.buffered [0x61, 0xFF]) := by
  refine ⟨?_, by decide +kernel, by decide +kernel, by decide +kernel⟩
  exact assembles_always rfl (by decide +kernel) rfl (by decide +kernel) rfl (by decide +kernel)

end Transclusion.Engine
