import Transclusion.Proofs.Assembly.Provenance
import Transclusion.Proofs.Engine.Assembled
import Transclusion.Proofs.Fetching

/-!
# The size ceiling

No document of a run comes from more bytes than the limit allows, neither the content of the first
response nor what is fetched for a block, however deep. What is too long is refused by the same
failure wherever it comes from. The declared length is looked at before anything is read, and what
is read is counted, so content that declares little and delivers much is refused as well.

## Main results

`process_within_ceiling`: where the documents of a run come from, and what becomes of content that
is too long.
-/

namespace Transclusion

theorem Source.readBounded_of_exceeds {limit : Nat} {source : Source}
    (exceeds : limit < source.drain.1.length) :
    ∃ rest, (source.readBounded limit).1 = .exceeded rest := by
  have told := source.readBounded_describes limit
  cases outcome : (source.readBounded limit).1 with
  | complete bytes =>
    rw [outcome] at told
    obtain ⟨drained, fits⟩ := told
    rw [drained] at exceeds
    exact absurd exceeds (Nat.not_lt.2 fits)
  | exceeded rest => exact ⟨rest, rfl⟩
  -- A read that has met a fault has not gone past the limit before.
  | interrupted rest fault =>
    exact absurd exceeds (Nat.not_lt.2 (Source.length_le_of_interrupted outcome))

namespace ContentReader

variable {c : ContentReader} {r : Response}

/-- Whether a response has content in a known charset that is too long: it declares more than the
limit, or it delivers more before its first fault. -/
structure Oversized (c : ContentReader) (r : Response) : Prop where
  content : r.hasContent = true
  known : (Charset.lookup? (r.charset.getD c.defaultCharset)).isSome = true
  exceeds : (∃ n, r.length = some n ∧ c.maxLength < n) ∨
    ∃ source, r.source = some source ∧ c.maxLength < source.drain.1.length

theorem checkDeclared_cases (c : ContentReader) (r : Response) :
    c.checkDeclared r = .error (.tooLarge c.maxLength) ∨
      c.checkDeclared r = .ok () ∧ ∀ n, r.length = some n → n ≤ c.maxLength := by
  cases refused : c.checkDeclared r with
  | ok => exact .inr ⟨rfl, (c.checkDeclared_eq_ok_iff r).1 refused⟩
  | error failure =>
    left
    unfold checkDeclared at refused
    split at refused
    · split at refused
      · exact refused.symm
      · cases refused
    · cases refused

/-- What is too long is refused as such: by the length it declares, or while it is read. -/
theorem buffer_of_oversized (oversized : c.Oversized r) :
    (c.buffer r).1 = .error (.tooLarge c.maxLength) := by
  obtain ⟨content, known, exceeds⟩ := oversized
  obtain ⟨charset, known⟩ := Option.isSome_iff_exists.1 known
  have known := (c.charsetOf_eq_ok_iff r charset).2 known
  have present : r.source.isSome = true := by
    simp only [Response.hasContent, Bool.and_eq_true] at content
    exact content.2
  obtain ⟨source, present⟩ := Option.isSome_iff_exists.1 present
  unfold buffer
  rcases c.checkDeclared_cases r with declared | ⟨declared, within⟩
  · rw [known, declared]
  · have more : c.maxLength < source.drain.1.length := by
      rcases exceeds with ⟨n, stated, more⟩ | ⟨source', present', more⟩
      · exact absurd more (Nat.not_lt.2 (within n stated))
      · obtain rfl := Option.some.inj (present.symm.trans present')
        exact more
    obtain ⟨rest, exceeded⟩ := Source.readBounded_of_exceeds more
    rw [known, declared, present]
    dsimp only
    rw [exceeded]

theorem Oversized.not_readable (oversized : c.Oversized r) (charset : Charset) (bytes : Bytes) :
    ¬ c.Readable r charset bytes := by
  have refused := buffer_of_oversized oversized
  rcases c.buffer_cases r with ⟨_, _, -, buffered⟩ | ⟨_, _, -, -, -, unreadable⟩
  · rw [buffered] at refused
    cases refused
  · exact unreadable charset bytes

theorem contentOf_of_oversized (oversized : c.Oversized r) :
    c.contentOf r = .error (.tooLarge c.maxLength) := by
  rw [c.contentOf_eq_buffer oversized.content, buffer_of_oversized oversized]
  rfl

/-- Text that is taken out of a response is the decoding of all of its content. -/
theorem readable_of_contentOf {text : String} (taken : c.contentOf r = .ok text) :
    ∃ charset bytes, c.Readable r charset bytes ∧ text = String.ofList (charset.decode bytes) := by
  cases content : r.hasContent with
  | false =>
    simp only [contentOf, content, Bool.not_false, if_true, reduceCtorEq] at taken
  | true =>
    rw [c.contentOf_eq_buffer content] at taken
    rcases c.buffer_cases r with ⟨charset, bytes, readable, buffered⟩ | ⟨failure, _, buffered, -⟩
    · rw [buffered] at taken
      exact ⟨charset, bytes, readable, (Except.ok.inj taken).symm⟩
    · rw [buffered] at taken
      cases taken

end ContentReader

namespace Engine

variable {σ : Type} {e : Engine} {o : Origin σ} {r : Request} {s : σ} {log : List Assembly.Event}

/-- Whether a log tells all of the work on documents in a run for `r` from the state `s` on. There is
none unless content is assembled, and this content is the first document. -/
inductive Logs (e : Engine) (o : Origin σ) (r : Request) (s : σ) : List Assembly.Event → Prop
  | unassembled (unassembled : ∀ given next assemblage plan decoded,
      ¬ e.Assembles o r s given next assemblage plan decoded) : Logs e o r s []
  | assembled {given next assemblage plan decoded values log t}
      (assembles : e.Assembles o r s given next assemblage plan decoded)
      (evaluation : (e.assembly o assemblage (e.forwarded r)).Evaluates e.settings.maxDepth 0
        (.scope plan.reverse decoded.text) next values log t) :
      Logs e o r s (.opened 0 plan.reverse decoded.text :: log)

theorem exists_logs (e : Engine) (o : Origin σ) (r : Request) (s : σ) : ∃ log, e.Logs o r s log := by
  by_cases assembled : ∃ given next assemblage plan decoded,
      e.Assembles o r s given next assemblage plan decoded
  · obtain ⟨given, next, assemblage, plan, decoded, assembles⟩ := assembled
    obtain ⟨values, log, t, evaluation⟩ := Assembly.exists_evaluates
      (e.assembly o assemblage (e.forwarded r)) e.settings.maxDepth 0 plan.reverse decoded.text next
    exact ⟨_, .assembled assembles evaluation⟩
  · refine ⟨[], .unassembled fun given next assemblage plan decoded assembles => assembled ?_⟩
    exact ⟨given, next, assemblage, plan, decoded, assembles⟩

theorem Logs.requests_eq (logs : e.Logs o r s log) :
    (e.process o r s).requests = e.forwarded r :: Assembly.requestsOf log := by
  cases logs with
  | unassembled unassembled => exact process_of_unassembled unassembled
  | @assembled _ next assemblage plan decoded values log t assembles evaluation =>
    have outcome : e.assembling o r assemblage plan decoded next =
        ⟨values, Assembly.requestsOf log, t⟩ := evaluation.run_eq
    rw [process_of_assembles assembles, outcome, Assembly.requestsOf_opened]

/-- Every document of a run is what its last request so far has brought. -/
theorem Logs.readable_of_opened (logs : e.Logs o r s log) {before after : List Assembly.Event}
    {level : Nat} {stack : List PlanEntry} {text : String}
    (split : log = before ++ .opened level stack text :: after) :
    ∃ earlier request given charset bytes,
      e.forwarded r :: Assembly.requestsOf before = earlier ++ [request] ∧
      (o.reply (o.after s earlier) request).1 = .ok given ∧
      e.settings.reader.Readable given charset bytes ∧
      text = String.ofList (charset.decode bytes) := by
  cases logs with
  | unassembled => exact absurd rfl (ne_nil_of_split split)
  | @assembled given next assemblage plan decoded values log t assembles evaluation =>
    cases before with
    | nil =>
      cases split
      obtain ⟨bytes, readable, text, -⟩ := assembles.readable
      refine ⟨[], e.forwarded r, given, decoded.charset, bytes, rfl, ?_, readable, text⟩
      exact congrArg Prod.fst assembles.replied
    | cons event before =>
      obtain ⟨rfl, inner⟩ := List.cons.inj split
      obtain ⟨earlier, request, names, made, told, -⟩ := evaluation.brings_of_opened inner
      have first : (o.reply s (e.forwarded r)).2 = next := congrArg Prod.snd assembles.replied
      have brought : (o.reply (o.after s (e.forwarded r :: earlier)) request).1.bind
          e.settings.reader.contentOf = .ok text := by
        rw [← first] at told
        exact told
      refine ⟨e.forwarded r :: earlier, request, ?_⟩
      cases reply : (o.reply (o.after s (e.forwarded r :: earlier)) request).1 with
      | error failure =>
        rw [reply] at brought
        cases brought
      | ok given =>
        rw [reply] at brought
        obtain ⟨charset, bytes, readable, text⟩ := ContentReader.readable_of_contentOf brought
        refine ⟨given, charset, bytes, ?_, rfl, readable, text⟩
        rw [Assembly.requestsOf_opened, made, List.cons_append]

theorem process_of_oversized {given : Response} {next : σ}
    (replied : o.reply s (e.forwarded r) = (.ok given, next))
    (oversized : e.settings.reader.Oversized given) :
    (e.process o r s).value.SameHead given ∧ (e.process o r s).value.SameContent given ∧
      (e.process o r s).requests = [e.forwarded r] := by
  have delivers : e.Delivers o r given next (e.process o r s).value := by
    rw [process_of_ok replied]
    exact answer_delivers e o r given next
  refine ⟨delivers.head, ?_, process_of_unassembled ?_⟩
  · rcases delivers.content with ⟨same, -⟩ | ⟨out, splices, -⟩
    · exact same
    · obtain ⟨_, _, charset, bytes, -, -, -, -, readable, -⟩ := splices
      exact absurd readable (oversized.not_readable charset bytes)
  · intro given' next' assemblage plan decoded assembles
    obtain ⟨bytes, readable, -⟩ := assembles.readable
    have same := replied.symm.trans assembles.replied
    obtain rfl : given = given' := Except.ok.inj (Prod.mk.inj same).1
    exact oversized.not_readable _ bytes readable

end Engine

theorem Assembly.expand_of_oversized {σ : Type} {a : Assembly σ} {matcher : Matcher}
    {names : List String} {m : Match} {request : Request} {resolution : Resolution} {t next : σ}
    {given : Response} (wanted : a.wanted? matcher names m = some (request, resolution))
    (replied : a.origin.reply t request = (.ok given, next)) (oversized : a.reader.Oversized given)
    (depth : Nat) :
    a.expand (depth + 1) matcher names m t =
      ⟨a.assemblage.renderFailure m.whole (.tooLarge a.reader.maxLength), [request], next⟩ := by
  have refused : (Except.ok given : Reply).bind a.reader.contentOf =
      .error (.tooLarge a.reader.maxLength) := ContentReader.contentOf_of_oversized oversized
  have fetched : a.reader.fetch a.origin request t =
      ⟨.error (.tooLarge a.reader.maxLength), [request], next⟩ := by
    rw [ContentReader.fetch_apply, replied, refused]
  rw [expand_succ, wanted]
  simp only [Run.bind_apply, fetched, Run.pure_apply, List.append_nil]

namespace Engine

variable {σ : Type}

/-- A run has a log of its documents, and whenever a document is opened, it is the decoding of the
content that the last request has brought: of no more bytes than the limit, by a response that
declares no more. Content that is too long leads to no document. The first response is delivered as
it came then, and nothing is requested after it. Of a block that refers to it the failure takes the
place, and its own request is the only one that is made for it. -/
theorem process_within_ceiling (e : Engine) (o : Origin σ) (r : Request) (s : σ) :
    (∃ log, e.Logs o r s log) ∧
    (∀ log, e.Logs o r s log →
      (e.process o r s).requests = e.forwarded r :: Assembly.requestsOf log ∧
      ∀ before level stack text after, log = before ++ .opened level stack text :: after →
        ∃ earlier request given charset bytes,
          e.forwarded r :: Assembly.requestsOf before = earlier ++ [request] ∧
          (o.reply (o.after s earlier) request).1 = .ok given ∧
          e.settings.reader.Readable given charset bytes ∧
          text = String.ofList (charset.decode bytes)) ∧
    (∀ given next, o.reply s (e.forwarded r) = (.ok given, next) →
      e.settings.reader.Oversized given →
      (e.settings.reader.buffer given).1 = .error (.tooLarge e.settings.maxContentLength) ∧
      (e.process o r s).value.SameHead given ∧ (e.process o r s).value.SameContent given ∧
      (e.process o r s).requests = [e.forwarded r]) ∧
    (∀ assemblage depth matcher names m request resolution t given next,
      (e.assembly o assemblage (e.forwarded r)).wanted? matcher names m =
        some (request, resolution) →
      o.reply t request = (.ok given, next) → e.settings.reader.Oversized given →
      (e.assembly o assemblage (e.forwarded r)).expand (depth + 1) matcher names m t =
        ⟨assemblage.renderFailure m.whole (.tooLarge e.settings.maxContentLength), [request],
          next⟩) ∧
    (FetchFailure.tooLarge e.settings.maxContentLength).status = 417 ∧
    (FetchFailure.tooLarge e.settings.maxContentLength).text = "Response too large" := by
  refine ⟨exists_logs e o r s, ?_, ?_, ?_, rfl, rfl⟩
  · intro log logs
    exact ⟨logs.requests_eq, fun before level stack text after => logs.readable_of_opened⟩
  · intro given next replied oversized
    exact ⟨ContentReader.buffer_of_oversized oversized, process_of_oversized replied oversized⟩
  · intro assemblage depth matcher names m request resolution t given next wanted replied oversized
    exact Assembly.expand_of_oversized wanted replied oversized depth

end Engine

end Transclusion
