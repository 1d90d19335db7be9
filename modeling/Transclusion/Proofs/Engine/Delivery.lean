import Transclusion.Engine
import Transclusion.Proofs.Reading

/-!
# Delivery

What the engine does to the response of the origin. It never touches anything but the content, and
the content it either replaces as a whole by assembled content or delivers as the origin would have.
The assembled content is used exactly if every condition for it holds; each of the ways in which
the engine gives up leads back to the content of the origin, also when that has been read in part.

## Main results

`process_delivers`: the answer is the response of the origin, with its content or assembled content.
-/

namespace Transclusion.Engine

variable {σ : Type}

/-- The request that the origin gets to see: the one that came in, without the trigger header. -/
def forwarded (e : Engine) (r : Request) : Request :=
  { r with headers := r.headers.erase e.settings.triggerHeader }

/-- The names that a request asks for. -/
def asked (e : Engine) (r : Request) : List String :=
  requestedNames r.headers e.settings.triggerHeader

/-- The answer to a request that the origin has given a response to. -/
def answer (e : Engine) (o : Origin σ) (r : Request) (given : Response) : Run σ Response :=
  match e.plan? (e.forwarded r) (e.asked r) given with
  | none => return given
  | some (assemblage, entries) => e.assembleContent o (e.forwarded r) assemblage entries given

/-- Whether the content of a response that the origin has given, and stays in state `s` after, is
replaced by the bytes `out`. Names have to be asked for, the response has to have content in a
charset that is known, without fault and within the limit, and there have to be rules for its
content type and a plan for the request. The bytes are the assembled text in the same charset. -/
inductive Splices (e : Engine) (o : Origin σ) (r : Request) (given : Response) (s : σ)
    (out : Bytes) : Prop where
  | intro (assemblage : Assemblage) (entries : List PlanEntry) (charset : Charset) (bytes : Bytes)
      (asks : e.asked r ≠ [])
      (content : given.hasContent = true)
      (ruled : e.repository.assemblage (given.contentType.getD "") = some assemblage)
      (planned : e.repository.resolve assemblage r.method r.uri (e.forwarded r).headers (e.asked r)
        false = .plan entries)
      (readable : e.settings.reader.Readable given charset bytes)
      (encoded : charset.encode? (String.join
        ((e.assembly o assemblage (e.forwarded r)).assemble e.settings.maxDepth entries
          (String.ofList (charset.decode bytes)) s).value).toList = some out)

theorem process_of_ok {e : Engine} {o : Origin σ} {r : Request} {s next : σ} {given : Response}
    (replied : o.reply s (e.forwarded r) = (.ok given, next)) :
    e.process o r s =
      ⟨(e.answer o r given next).value,
        e.forwarded r :: (e.answer o r given next).requests,
        (e.answer o r given next).state⟩ := by
  have dispatched : Run.dispatch o (e.forwarded r) s = ⟨.ok given, [e.forwarded r], next⟩ := by
    simp only [Run.dispatch, replied]
  change (Run.dispatch o (e.forwarded r) >>= _) s = _
  rw [Run.bind_apply, dispatched]
  rfl

theorem process_of_error {e : Engine} {o : Origin σ} {r : Request} {s next : σ}
    {failure : FetchFailure} (replied : o.reply s (e.forwarded r) = (.error failure, next)) :
    e.process o r s = ⟨failed failure, [e.forwarded r], next⟩ := by
  have dispatched : Run.dispatch o (e.forwarded r) s = ⟨.error failure, [e.forwarded r], next⟩ := by
    simp only [Run.dispatch, replied]
  change (Run.dispatch o (e.forwarded r) >>= _) s = _
  rw [Run.bind_apply, dispatched]
  rfl

theorem plan?_eq_some_iff (e : Engine) (r : Request) (names : List String) (given : Response)
    (assemblage : Assemblage) (entries : List PlanEntry) :
    e.plan? r names given = some (assemblage, entries) ↔
      names ≠ [] ∧ given.hasContent = true ∧
      e.repository.assemblage (given.contentType.getD "") = some assemblage ∧
      e.repository.resolve assemblage r.method r.uri r.headers names false = .plan entries := by
  unfold plan?
  cases given.hasContent with
  | false => simp
  | true =>
    cases names with
    | nil => simp
    | cons name names =>
      cases e.repository.assemblage (given.contentType.getD "") with
      | none => simp
      | some found =>
        simp only [List.isEmpty_cons, Bool.not_true, Bool.or_self, Bool.false_eq_true, if_false]
        split
        next entries' planned =>
          simp only [Option.some.injEq, Prod.mk.injEq]
          constructor
          · rintro ⟨rfl, rfl⟩
            exact ⟨List.cons_ne_nil _ _, trivial, rfl, planned⟩
          · rintro ⟨-, -, rfl, same⟩
            exact ⟨rfl, Resolution.plan.inj (planned.symm.trans same)⟩
        next unplanned =>
          constructor
          · intro absurd
            cases absurd
          · rintro ⟨-, -, same, planned⟩
            cases same
            exact absurd planned (unplanned entries)

/-- Whether an answer is the response that the origin has given: its content is replaced as a whole
if everything needed for that holds, and otherwise it is delivered. -/
structure Delivers (e : Engine) (o : Origin σ) (r : Request) (given : Response) (s : σ)
    (response : Response) : Prop where
  head : response.SameHead given
  content : (response.SameContent given ∧ ∀ out, ¬ e.Splices o r given s out) ∨
    ∃ out, e.Splices o r given s out ∧ response.source = some (.buffered out) ∧
      response.length = some out.length

theorem answer_delivers (e : Engine) (o : Origin σ) (r : Request) (given : Response) (s : σ) :
    e.Delivers o r given s (e.answer o r given s).value := by
  unfold answer
  cases plan : e.plan? (e.forwarded r) (e.asked r) given with
  | none =>
    refine ⟨.refl given, .inl ⟨.refl given, ?_⟩⟩
    rintro out ⟨assemblage, entries, charset, bytes, asks, content, ruled, planned, -, -⟩
    rw [(plan?_eq_some_iff e _ _ _ assemblage entries).2 ⟨asks, content, ruled, planned⟩] at plan
    cases plan
  | some chosen =>
    obtain ⟨assemblage, entries⟩ := chosen
    obtain ⟨asks, content, ruled, planned⟩ := (plan?_eq_some_iff e _ _ _ _ _).1 plan
    dsimp only
    unfold assembleContent
    rcases e.settings.reader.buffer_cases given with
      ⟨charset, bytes, readable, buffered⟩ | ⟨failure, kept, buffered, head, same, unreadable⟩
    · rw [buffered]
      simp only [Run.value_bind, Run.pure_apply, deliver]
      split
      next out encoded =>
        exact ⟨⟨rfl, rfl, rfl, rfl, rfl⟩, .inr ⟨out,
          ⟨assemblage, entries, charset, bytes, asks, content, ruled, planned, readable, encoded⟩,
          rfl, rfl⟩⟩
      next unencodable =>
        refine ⟨⟨rfl, rfl, rfl, rfl, rfl⟩, .inl ⟨⟨?_, .inr ⟨bytes, rfl, rfl⟩⟩, ?_⟩⟩
        · rw [readable.drained]
          exact congrArg some (Source.drain_buffered bytes)
        -- The conditions fix what would be encoded, and that cannot be.
        · rintro out ⟨_, _, _, _, -, -, ruled', planned', readable', encoded⟩
          obtain rfl := Option.some.inj (ruled.symm.trans ruled')
          obtain rfl := Resolution.plan.inj (planned.symm.trans planned')
          obtain ⟨rfl, rfl⟩ := readable.unique readable'
          rw [unencodable] at encoded
          cases encoded
    · rw [buffered]
      refine ⟨head, .inl ⟨same, ?_⟩⟩
      rintro out ⟨_, _, charset, bytes, -, -, -, -, readable, -⟩
      exact unreadable charset bytes readable

/-- The engine answers with the response of the origin. Its status, text, headers, content type and
charset stay; its content is replaced by the assembled one if there is one, and otherwise delivered
with the same bytes up to the same fault. Only a failure of the first request is answered by another
response, and then nothing else is asked of the origin. -/
theorem process_delivers (e : Engine) (o : Origin σ) (r : Request) (s : σ) :
    match o.reply s (e.forwarded r) with
    | (.ok given, next) => e.Delivers o r given next (e.process o r s).value
    | (.error failure, _) =>
      (e.process o r s).value = failed failure ∧ (e.process o r s).requests = [e.forwarded r] := by
  cases replied : o.reply s (e.forwarded r) with
  | mk reply next =>
    cases reply with
    | ok given =>
      rw [process_of_ok replied]
      exact answer_delivers e o r given next
    | error failure =>
      rw [process_of_error replied]
      exact ⟨rfl, rfl⟩

end Transclusion.Engine
