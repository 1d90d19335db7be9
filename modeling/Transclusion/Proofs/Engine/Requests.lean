import Transclusion.Proofs.Assembly.Provenance
import Transclusion.Proofs.Engine.Delivery

/-!
# Requests

What an origin gets to see of a request that the engine answers. The request itself comes first,
without its trigger header. All others are fetches on its behalf: they repeat its scheme and its
headers, and each is made for a reference that stands in a document which the origin has delivered
before.

## Main results

`process_requests`: the form of every request of a run, and the block that it is made for.
-/

namespace Transclusion

variable {σ : Type}

namespace Engine

/-- The documents at hand in a run for `r`, with their plans, when the requests `earlier` have
followed the first one: the content of the response, if it is to be assembled, and what these
requests have brought. -/
def AtHand (e : Engine) (o : Origin σ) (r : Request) (s : σ) (earlier : List Request)
    (entries : List PlanEntry) (document : String) : Prop :=
  ∃ given next assemblage plan charset bytes,
    o.reply s (e.forwarded r) = (.ok given, next) ∧
    e.plan? (e.forwarded r) (e.asked r) given = some (assemblage, plan) ∧
    e.settings.reader.Readable given charset bytes ∧
    (e.assembly o assemblage (e.forwarded r)).AtHand next plan
      (String.ofList (charset.decode bytes)) earlier entries document

theorem answer_requests {e : Engine} {o : Origin σ} {r : Request} {s next : σ} {given : Response}
    (replied : o.reply s (e.forwarded r) = (.ok given, next)) {before after : List Request}
    {request : Request}
    (made : (e.answer o r given next).requests = before ++ request :: after) :
    request = .fetch request.uri r.scheme (e.forwarded r).headers request.parameters ∧
      ∃ entries document, e.AtHand o r s before entries document ∧
        Assembly.Calls entries document request := by
  unfold answer at made
  cases planned : e.plan? (e.forwarded r) (e.asked r) given with
  | none =>
    rw [planned] at made
    exact absurd rfl (ne_nil_of_split made)
  | some chosen =>
    obtain ⟨assemblage, plan⟩ := chosen
    rw [planned] at made
    dsimp only at made
    unfold assembleContent at made
    rcases e.settings.reader.buffer_cases given with
      ⟨charset, bytes, readable, buffered⟩ | ⟨failure, kept, buffered, -⟩
    · rw [buffered] at made
      simp only [Run.requests_bind, Run.pure_apply, List.append_nil] at made
      obtain ⟨form, entries, document, atHand, calls⟩ := Assembly.assemble_requests _ _ _ _ _ made
      exact ⟨form, entries, document,
        ⟨given, next, assemblage, plan, charset, bytes, replied, planned, readable, atHand⟩, calls⟩
    · rw [buffered] at made
      exact absurd rfl (ne_nil_of_split made)

/-- The first request of a run is the one that came in without the headers of the trigger's name.
All that follow are fetches without a body that repeat its scheme and its headers; their path has no
leading slash, and with their parameters it is a reference that stands in a block of a document at
hand. So the trigger never reaches the origin. -/
theorem process_requests (e : Engine) (o : Origin σ) (r : Request) (s : σ) :
    ∃ later,
      (e.process o r s).requests =
        { r with headers := ⟨r.headers.toList.filter fun entry =>
            !Text.sameIgnoringCase entry.1 e.settings.triggerHeader⟩ } :: later ∧
      (∀ before request after, later = before ++ request :: after →
        request.method = "GET" ∧ request.body = none ∧ request.scheme = r.scheme ∧
        request.headers = (e.forwarded r).headers ∧ request.uri.toList.head? ≠ some '/' ∧
        ∃ entries document, e.AtHand o r s before entries document ∧
          Assembly.Calls entries document request) ∧
      ∀ request ∈ (e.process o r s).requests, ∀ entry ∈ request.headers.toList,
        Text.sameIgnoringCase entry.1 e.settings.triggerHeader = false := by
  obtain ⟨later, requests, shaped⟩ :
      ∃ later, (e.process o r s).requests = e.forwarded r :: later ∧
        ∀ before request after, later = before ++ request :: after →
          request = .fetch request.uri r.scheme (e.forwarded r).headers request.parameters ∧
          ∃ entries document, e.AtHand o r s before entries document ∧
            Assembly.Calls entries document request := by
    cases replied : o.reply s (e.forwarded r) with
    | mk reply next =>
      cases reply with
      | ok given =>
        refine ⟨_, by rw [process_of_ok replied], fun before request after made => ?_⟩
        exact answer_requests replied made
      | error failure =>
        refine ⟨[], by rw [process_of_error replied], fun before request after made => ?_⟩
        exact absurd rfl (ne_nil_of_split made)
  refine ⟨later, requests, fun before request after made => ?_, fun request member entry named => ?_⟩
  · obtain ⟨form, source⟩ := shaped before request after made
    refine ⟨?_, ?_, ?_, ?_, ?_, source⟩ <;> rw [form]
    · rfl
    · rfl
    · rfl
    · rfl
    · exact Text.head?_dropSlashes _
  · rw [requests] at member
    have repeated : request.headers = (e.forwarded r).headers := by
      rcases List.mem_cons.1 member with rfl | inside
      · rfl
      · obtain ⟨before, after, split⟩ := List.append_of_mem inside
        rw [(shaped before request after split).1]
        rfl
    rw [repeated] at named
    exact Headers.sameIgnoringCase_of_mem_erase named

end Engine

end Transclusion
