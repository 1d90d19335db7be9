import Transclusion.Proofs.Headers
import Transclusion.Proofs.Reading
import Transclusion.Proxy.Basic

/-!
# Answers of the proxy

A request that the proxy accepts is answered with the response of the engine. Of its headers those
that describe a connection are left out, and so are all lengths but the one that the response itself
states; where it states none, the length of a body in memory is added on the way out.

## Main results

`handle_of_admits`: what becomes of a request that is accepted.
`getAll_answer_of_passed`, `getAll_answer_hopByHop`, `getAll_answer_length`: the headers of an
answer, name by name.
-/

namespace Transclusion

theorem Grammar.isFieldValue_toString (n : Nat) : isFieldValue (toString n) = true := by
  rw [isFieldValue, List.all_eq_true, Nat.toString_eq_repr, Nat.repr_eq_ofList_toDigits,
    String.toList_ofList]
  intro c member
  have digit := Nat.isDigit_of_mem_toDigits (by omega) (by omega) member
  simp only [Char.isDigit, Bool.and_eq_true, decide_eq_true_iff, ge_iff_le,
    UInt32.le_iff_toNat_le] at digit
  have low : 48 ≤ c.toNat := digit.1
  have high : c.toNat ≤ 57 := digit.2
  simp only [isFieldChar, Bool.or_eq_true, Bool.and_eq_true, decide_eq_true_iff, bne_iff_ne]
  right
  omega

/-- Whether a header of this name describes the connection to one side only. -/
def OfConnection (name : String) : Prop :=
  Text.lower name ∈ ["connection", "keep-alive", "proxy-authenticate", "proxy-authorization", "te",
    "trailer", "transfer-encoding", "upgrade"]

instance : DecidablePred OfConnection := fun _ => inferInstanceAs (Decidable (_ ∈ _))

theorem isHopByHop_iff {name : String} : isHopByHop name = true ↔ OfConnection name := by
  have low : ∀ own ∈ hopByHop, Text.lower own = own := by decide
  simp only [isHopByHop, List.any_eq_true, Text.sameIgnoringCase_iff]
  constructor
  · rintro ⟨own, listed, same⟩
    rw [low own listed] at same
    rw [OfConnection, ← same]
    exact listed
  · intro listed
    exact ⟨Text.lower name, listed, low _ listed⟩

theorem isHopByHop_eq {name other : String} (same : Text.sameIgnoringCase name other = true) :
    isHopByHop name = isHopByHop other := by
  have lower := Text.sameIgnoringCase_iff.1 same
  simp only [isHopByHop, Text.sameIgnoringCase, lower]

theorem sameIgnoringCase_of_isHopByHop {name other : String} (hop : isHopByHop name = true)
    (lasting : isHopByHop other = false) : Text.sameIgnoringCase other name = false := by
  rw [← Bool.not_eq_true]
  intro same
  rw [isHopByHop_eq same, hop] at lasting
  cases lasting

namespace HttpResponse

/-- Whether all headers of a response that are passed on can be put on the wire. -/
def Sendable (r : Response) : Prop :=
  ∀ entry ∈ r.headers.toList, isPassedOn entry = true →
    Grammar.isToken entry.1 = true ∧ Grammar.isFieldValue entry.2 = true

theorem headersOf_eq (r : Response) : headersOf r =
    r.headers.toList.filter isPassedOn ++
      r.length.toList.map fun n => ("content-length", toString n) := by
  unfold headersOf
  cases r.length <;> rfl

theorem sendable_iff {r : Response} :
    ((headersOf r).all fun entry => Grammar.isToken entry.1 && Grammar.isFieldValue entry.2) = true ↔
      Sendable r := by
  have length : Grammar.isToken "content-length" = true := by decide
  rw [headersOf_eq, List.all_append, Bool.and_eq_true, List.all_eq_true, List.all_eq_true]
  simp only [Sendable, List.mem_filter, List.mem_map, Bool.and_eq_true]
  constructor
  · rintro ⟨passed, -⟩ entry member kept
    exact passed entry ⟨member, kept⟩
  · intro sendable
    refine ⟨fun entry member => sendable entry member.1 member.2, ?_⟩
    rintro _ ⟨n, -, rfl⟩
    exact ⟨length, Grammar.isFieldValue_toString n⟩

theorem statusOf_of_isSuccess {status : Nat} (success : Transclusion.isSuccess status = true) :
    statusOf status = status := by
  simp only [Transclusion.isSuccess, Bool.and_eq_true, decide_eq_true_iff] at success
  apply if_pos
  omega

theorem ofResponse_of_sendable {r : Response} (sendable : Sendable r) :
    ofResponse r = ⟨statusOf r.status,
      .ofList ((headersOf r).map fun entry => (Text.lower entry.1, entry.2)), bodyOf r⟩ := by
  have all := sendable_iff.2 sendable
  unfold ofResponse
  exact if_pos all

theorem ofResponse_of_not_sendable {r : Response} (unsendable : ¬ Sendable r) :
    ofResponse r = plain FetchFailure.badGateway "Bad Gateway" := by
  have notAll := mt sendable_iff.1 unsendable
  unfold ofResponse
  exact if_neg notAll

variable {r : Response} {h : HttpResponse} {name : String}

/-! ### The length added on the way out -/

@[simp] theorem withLength_status : h.withLength.status = h.status := by
  unfold withLength
  split
  · split <;> rfl
  · rfl

@[simp] theorem withLength_body : h.withLength.body = h.body := by
  unfold withLength
  split
  · split <;> rfl
  · rfl

theorem getAll_withLength_other (other : Text.sameIgnoringCase "content-length" name = false) :
    h.withLength.headers.getAll name = h.headers.getAll name := by
  unfold withLength
  split
  · split
    · rfl
    · exact Headers.getAll_append_other other h.headers _
  · rfl

theorem getAll_withLength_of_stated {n : Nat}
    (stated : h.headers.getAll "content-length" = [toString n]) :
    h.withLength.headers.getAll "content-length" = [toString n] := by
  have contained : h.headers.contains "content-length" = true := by
    rw [← Bool.not_eq_false, Headers.contains_eq_false_iff, stated]
    exact List.cons_ne_nil _ _
  unfold withLength
  split
  · rw [if_pos contained, stated]
  · exact stated

theorem getAll_withLength_of_unstated (unstated : h.headers.getAll "content-length" = []) :
    h.withLength.headers.getAll "content-length" = h.size?.toList.map toString := by
  have missing := Headers.contains_eq_false_iff.2 unstated
  unfold withLength
  split
  next n size =>
    rw [missing, if_neg Bool.false_ne_true, size, Headers.getAll_append_self, unstated]
    rfl
  next size => rw [unstated, size]; rfl

/-! ### The headers of an answer -/

theorem getAll_ofResponse (sendable : Sendable r) :
    (ofResponse r).headers.getAll name =
      (Headers.ofList (r.headers.toList.filter isPassedOn)).getAll name ++
        if Text.sameIgnoringCase "content-length" name then r.length.toList.map toString else [] := by
  rw [ofResponse_of_sendable sendable, Headers.getAll_ofList_lower, headersOf_eq,
    Headers.getAll_ofList_append]
  congr 1
  cases r.length with
  | none => simp [Headers.getAll, Headers.ofList]
  | some n =>
    by_cases named : Text.sameIgnoringCase "content-length" name = true
    · simp [Headers.getAll, Headers.ofList, Headers.isNamed, named]
    · simp [Headers.getAll, Headers.ofList, Headers.isNamed, named]

/-- Whether an entry is passed on depends on its name alone, in whatever case. -/
theorem isPassedOn_eq {entry : String × String} (named : Headers.isNamed name entry = true) :
    isPassedOn entry = (!isHopByHop name && !Text.sameIgnoringCase "content-length" name) := by
  have lower : Text.lower entry.1 = Text.lower name := Text.sameIgnoringCase_iff.1 named
  rw [isPassedOn, isHopByHop_eq named, Text.sameIgnoringCase, Text.sameIgnoringCase, lower,
    Bool.beq_comm]

theorem getAll_answer_hopByHop (sendable : Sendable r) (hop : isHopByHop name = true) :
    (ofResponse r).withLength.headers.getAll name = [] := by
  have dropped : ∀ entry, Headers.isNamed name entry = true → isPassedOn entry = false := by
    intro entry named
    rw [isPassedOn_eq named, hop]
    rfl
  -- The length describes content, so it is no header of a connection.
  have other : Text.sameIgnoringCase "content-length" name = false :=
    sameIgnoringCase_of_isHopByHop hop (by decide)
  rw [getAll_withLength_other other, getAll_ofResponse sendable,
    Headers.getAll_filter_dropped dropped, other, if_neg Bool.false_ne_true, List.append_nil]

/-- The length is the one that the response states, or else the one of a body in memory. -/
theorem getAll_answer_length (sendable : Sendable r) :
    (ofResponse r).withLength.headers.getAll "content-length" =
      (r.length.or (ofResponse r).size?).toList.map toString := by
  have dropped : ∀ entry, Headers.isNamed "content-length" entry = true →
      isPassedOn entry = false := by
    intro entry named
    rw [isPassedOn_eq named]
    decide
  have own := @getAll_ofResponse r "content-length" sendable
  rw [Headers.getAll_filter_dropped dropped, List.nil_append, if_pos (by decide)] at own
  cases length : r.length with
  | none =>
    rw [length] at own
    exact getAll_withLength_of_unstated own
  | some n =>
    rw [length] at own
    exact getAll_withLength_of_stated own

end HttpResponse

namespace Proxy

variable {σ : Type} {p : Proxy} {o : Origin σ} {s : σ} {r : HttpRequest} {bytes : Bytes}

theorem acceptBody?_eq_some_iff : p.acceptBody? r = some bytes ↔
    (∀ n, r.declaredLength? = some n → n ≤ p.maxRequestBody) ∧
      r.body.drain = (bytes, none) ∧ bytes.length ≤ p.maxRequestBody := by
  have declared : (r.declaredLength?.any fun n => decide (p.maxRequestBody < n)) = false ↔
      ∀ n, r.declaredLength? = some n → n ≤ p.maxRequestBody := by
    cases r.declaredLength? <;> simp
  rw [← Source.readBounded_eq_complete_iff, ← declared]
  unfold acceptBody?
  cases r.declaredLength?.any fun n => decide (p.maxRequestBody < n) with
  | true => simp
  | false =>
    cases (r.body.readBounded p.maxRequestBody).1 <;> simp

/-- Whether a request is passed on with a body: it does not ask for the health of the proxy, and its
body is within the limit, by its declared length as by its bytes. -/
structure Admits (p : Proxy) (r : HttpRequest) (bytes : Bytes) : Prop where
  path : r.target.path ≠ healthPath
  declared : ∀ n, r.declaredLength? = some n → n ≤ p.maxRequestBody
  drained : r.body.drain = (bytes, none)
  fits : bytes.length ≤ p.maxRequestBody

theorem handle_of_admits (admits : p.Admits r bytes) (notHead : r.method ≠ "HEAD")
    (notConnect : r.method ≠ "CONNECT") :
    p.handle o r s =
      let outcome := p.engine.process o (r.toRequest bytes) s
      ⟨(HttpResponse.ofResponse outcome.value).withLength, outcome.requests, outcome.state⟩ := by
  have accepted : p.acceptBody? r = some bytes :=
    acceptBody?_eq_some_iff.2 ⟨admits.declared, admits.drained, admits.fits⟩
  have finished : ∀ h, finish r.method h = h.withLength := by
    intro h
    rw [finish, if_neg (fun connect => notConnect connect.1), if_neg notHead]
  unfold handle forward
  simp only [if_neg admits.path, accepted, finished, Run.bind_apply, Run.pure_apply,
    List.append_nil]

end Proxy

end Transclusion
