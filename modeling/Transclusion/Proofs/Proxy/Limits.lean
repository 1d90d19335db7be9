import Mathlib.Data.List.Induction
import Transclusion.Proofs.Assembly.DepthLimit
import Transclusion.Proofs.BoundedRead
import Transclusion.Proofs.Engine.Assembled
import Transclusion.Proofs.Proxy.Answers

/-!
# Limits on request bodies

The proxy reads the body of a request before it passes the request on. A body that is declared or
turns out to be larger than the limit is refused, and so is one that cannot be read to its end;
nothing is sent to the origin then. Every other body arrives whole, whatever its chunks are and
whatever length has been declared for it.

## Main results

`handle_limits_bodies`: which requests are refused, and what the engine gets of the others.
-/

namespace Transclusion

/-! ### Declared lengths -/

namespace Text

/-- Whether decimal digits denote a number. -/
inductive Numeral : List Char → Nat → Prop where
  | digit {c : Char} (isDigit : c.isDigit = true) : Numeral [c] (c.toNat - 48)
  | more {cs : List Char} {n : Nat} {c : Char} (front : Numeral cs n) (isDigit : c.isDigit = true) :
      Numeral (cs ++ [c]) (10 * n + (c.toNat - 48))

/-- Whether a text is read as a number that fits a machine word. -/
def IsWord (cs : List Char) (n : Nat) : Prop :=
  (∃ digits, (cs = digits ∨ cs = '+' :: digits) ∧ Numeral digits n) ∧ n < 2 ^ 64

theorem decimalValue_append_singleton (cs : List Char) (c : Char) :
    decimalValue (cs ++ [c]) = 10 * decimalValue cs + (c.toNat - 48) := by
  simp [decimalValue]

theorem numeral_iff {cs : List Char} {n : Nat} :
    Numeral cs n ↔ cs ≠ [] ∧ cs.all Char.isDigit = true ∧ decimalValue cs = n := by
  constructor
  · intro numeral
    induction numeral with
    | digit isDigit => simp [isDigit, decimalValue]
    | more front isDigit ih => simp_all [decimalValue_append_singleton]
  · rintro ⟨nonempty, digits, rfl⟩
    induction cs using List.reverseRecOn with
    | nil => exact absurd rfl nonempty
    | append_singleton cs c ih =>
      simp only [List.all_append, List.all_cons, List.all_nil, Bool.and_true,
        Bool.and_eq_true] at digits
      rcases List.eq_nil_or_concat cs with rfl | ⟨front, last, rfl⟩
      · simpa [decimalValue] using Numeral.digit digits.2
      · rw [decimalValue_append_singleton]
        exact .more (ih (by simp) digits.1) digits.2

theorem not_numeral_plus {digits : List Char} {n : Nat} : ¬ Numeral ('+' :: digits) n := by
  simp [numeral_iff]

theorem word?_plus (digits : List Char) : word? ('+' :: digits) =
    if digits ≠ [] ∧ digits.all Char.isDigit ∧ decimalValue digits < 2 ^ 64 then
      some (decimalValue digits) else none := rfl

theorem word?_unsigned {cs : List Char} (unsigned : ∀ digits, cs ≠ '+' :: digits) : word? cs =
    if cs ≠ [] ∧ cs.all Char.isDigit ∧ decimalValue cs < 2 ^ 64 then
      some (decimalValue cs) else none := by
  simp [word?]

theorem word?_eq_some_iff {cs : List Char} {n : Nat} : word? cs = some n ↔ IsWord cs n := by
  have read : ∀ digits : List Char, (if digits ≠ [] ∧ digits.all Char.isDigit ∧
      decimalValue digits < 2 ^ 64 then some (decimalValue digits) else none) = some n ↔
        Numeral digits n ∧ n < 2 ^ 64 := by
    intro digits
    rw [numeral_iff]
    grind
  unfold IsWord
  by_cases signed : ∃ rest, cs = '+' :: rest
  · obtain ⟨rest, rfl⟩ := signed
    rw [word?_plus, read]
    constructor
    · rintro ⟨numeral, fits⟩
      exact ⟨⟨rest, .inr rfl, numeral⟩, fits⟩
    · rintro ⟨⟨digits, rfl | same, numeral⟩, fits⟩
      · exact absurd numeral not_numeral_plus
      · obtain ⟨-, rfl⟩ := List.cons.inj same
        exact ⟨numeral, fits⟩
  · rw [word?_unsigned fun digits same => signed ⟨digits, same⟩, read]
    constructor
    · rintro ⟨numeral, fits⟩
      exact ⟨⟨cs, .inl rfl, numeral⟩, fits⟩
    · rintro ⟨⟨digits, rfl | rfl, numeral⟩, fits⟩
      · exact ⟨numeral, fits⟩
      · exact absurd ⟨digits, rfl⟩ signed

end Text

theorem Grammar.isPlainValue_of_isWord {v : String} {n : Nat} (word : Text.IsWord v.toList n) :
    isPlainValue v = true := by
  obtain ⟨⟨digits, written, numeral⟩, -⟩ := word
  obtain ⟨-, allDigits, -⟩ := Text.numeral_iff.1 numeral
  have plain : ∀ c ∈ digits, isPlainChar c = true := by
    intro c member
    have digit := List.all_eq_true.1 allDigits c member
    simp only [Char.isDigit, Bool.and_eq_true, decide_eq_true_iff, ge_iff_le,
      UInt32.le_iff_toNat_le] at digit
    have low : 48 ≤ c.toNat := digit.1
    have high : c.toNat ≤ 57 := digit.2
    simp only [isPlainChar, Bool.or_eq_true, Bool.and_eq_true, decide_eq_true_iff]
    omega
  have plus : isPlainChar '+' = true := by decide
  rcases written with same | same <;> simp [isPlainValue, same, plus] <;> exact plain

namespace HttpRequest

variable {r : HttpRequest}

/-- Whether a request declares a length, which its first Content-Length header alone can do. -/
def Declares (r : HttpRequest) (n : Nat) : Prop :=
  ∃ v vs, r.headers.getAll "content-length" = v :: vs ∧ Text.IsWord v.toList n

theorem declaredLength?_eq_some_iff {n : Nat} : r.declaredLength? = some n ↔ r.Declares n := by
  unfold declaredLength? Declares
  rw [Headers.get?_eq_head?_getAll]
  cases r.headers.getAll "content-length" with
  | nil => simp
  | cons v vs =>
    have plain : Text.IsWord v.toList n → Grammar.isPlainValue v = true :=
      Grammar.isPlainValue_of_isWord
    simpa [Option.bind_eq_some_iff, Option.filter_eq_some_iff, Text.word?_eq_some_iff] using plain

/-- All bytes of the body, one chunk after the other. -/
def content (r : HttpRequest) : Bytes := Source.bytesOf r.body.items

end HttpRequest

/-! ### Bodies -/

namespace Source

theorem drainItems_eq_iff {its : List Item} {bytes : Bytes} :
    drainItems its = (bytes, none) ↔ (∀ item ∈ its, ¬ item.IsFault) ∧ bytesOf its = bytes := by
  induction its generalizing bytes with
  | nil => simp [drainItems, bytesOf]
  | cons item its ih =>
    cases item with
    | fault fault => simp [drainItems, Item.IsFault]
    | chunk head =>
      have sound : ¬ (Item.chunk head).IsFault := by simp [Item.IsFault]
      have joined : bytesOf (.chunk head :: its) = head ++ bytesOf its := rfl
      have whole := @ih (bytesOf its)
      simp only [drainItems_chunk, List.forall_mem_cons, joined, Prod.mk.injEq]
      constructor
      · rintro ⟨rfl, unbroken⟩
        obtain ⟨faultless, rest⟩ := ih.1 (Prod.ext rfl unbroken)
        exact ⟨⟨sound, faultless⟩, by rw [rest]⟩
      · rintro ⟨⟨-, faultless⟩, rfl⟩
        rw [whole.2 ⟨faultless, rfl⟩]
        exact ⟨rfl, rfl⟩

end Source

namespace Engine

theorem exists_later {σ : Type} (e : Engine) (o : Origin σ) (r : Request) (s : σ) :
    ∃ later, (e.process o r s).requests = e.forwarded r :: later := by
  cases replied : o.reply s (e.forwarded r) with
  | mk reply next =>
    cases reply with
    | ok given => exact ⟨_, by rw [process_of_ok replied]⟩
    | error failure => exact ⟨[], by rw [process_of_error replied]⟩

end Engine

namespace Proxy

variable {σ : Type} {p : Proxy} {r : HttpRequest}

/-- Whether the body of a request is refused: a length above the limit is declared, there are more
bytes than that, or some part of the body cannot be read. -/
inductive Refuses (p : Proxy) (r : HttpRequest) : Prop where
  | declared {n : Nat} (declares : r.Declares n) (exceeds : p.maxRequestBody < n)
  | long (exceeds : p.maxRequestBody < r.content.length)
  | broken {item : Item} (member : item ∈ r.body.items) (fault : item.IsFault)

theorem acceptBody?_of_refuses (refuses : p.Refuses r) : p.acceptBody? r = none := by
  rw [Option.eq_none_iff_forall_ne_some]
  intro bytes accepted
  obtain ⟨declared, drained, fits⟩ := acceptBody?_eq_some_iff.1 accepted
  obtain ⟨faultless, rfl⟩ := Source.drainItems_eq_iff.1 drained
  cases refuses with
  | declared declares exceeds =>
    have within := declared _ (HttpRequest.declaredLength?_eq_some_iff.2 declares)
    omega
  | long exceeds => exact absurd fits (Nat.not_le.2 exceeds)
  | broken member fault => exact faultless _ member fault

theorem acceptBody?_of_not_refuses (passes : ¬ p.Refuses r) : p.acceptBody? r = some r.content := by
  rw [acceptBody?_eq_some_iff]
  refine ⟨fun n declared => ?_, ?_, ?_⟩
  · rw [HttpRequest.declaredLength?_eq_some_iff] at declared
    exact Nat.le_of_not_lt fun exceeds => passes (.declared declared exceeds)
  · exact Source.drainItems_eq_iff.2 ⟨fun item member fault => passes (.broken member fault), rfl⟩
  · exact Nat.le_of_not_lt fun exceeds => passes (.long exceeds)

/-- A request whose body is refused is answered with status 413, and the origin is not asked. Any
other one is answered by the engine, which gets the body whole; so does the origin. -/
theorem handle_limits_bodies (p : Proxy) (o : Origin σ) (r : HttpRequest) (s : σ)
    (path : r.target.path ≠ healthPath) :
    (p.Refuses r → (p.handle o r s).value.status = 413 ∧ (p.handle o r s).requests = [] ∧
      (p.handle o r s).state = s) ∧
    (¬ p.Refuses r →
      let request := r.toRequest r.content
      let outcome := p.engine.process o request s
      request.body = (if r.content = [] then none else some r.content) ∧
      p.handle o r s =
        ⟨finish r.method (.ofResponse outcome.value), outcome.requests, outcome.state⟩ ∧
      ∃ first later, outcome.requests = first :: later ∧ first.body = request.body) := by
  constructor
  · intro refuses
    have refused := acceptBody?_of_refuses refuses
    simp [handle, forward, path, refused, Run.bind_apply, finish_status, tooLarge,
      HttpResponse.plain]
  · intro passes request outcome
    have accepted := acceptBody?_of_not_refuses passes
    refine ⟨?_, ?_, ?_⟩
    · simp [request, HttpRequest.toRequest]
    · simp only [handle, forward, if_neg path, accepted, Run.bind_apply, Run.pure_apply,
        List.append_nil]
      rfl
    · obtain ⟨later, requests⟩ := p.engine.exists_later o request s
      exact ⟨_, later, requests, rfl⟩

/-- Two bytes in three chunks, for which first a number that fits no word and then too small a length
is declared. -/
def uploaded : HttpRequest where
  method := "POST"
  target := ⟨none, "/page", none⟩
  headers := .ofList [("content-length", "18446744073709551616"), ("content-length", "1")]
  body := .stream [.chunk [0x61], .chunk [], .chunk [0x62]]

theorem handle_limits_bodies_uploaded :
    let o : Origin Unit := .stateless fun _ => .ok (.make 204)
    (handle ⟨Engine.always Assembly.link, 1⟩ o uploaded ()).value.status = 413 ∧
      (handle ⟨Engine.always Assembly.link, 1⟩ o uploaded ()).requests = [] ∧
      ∃ first later,
        (handle ⟨Engine.always Assembly.link, 2⟩ o uploaded ()).requests = first :: later ∧
          first.body = some [0x61, 0x62] := by
  intro o
  have path : uploaded.target.path ≠ healthPath := by decide
  have long : Refuses ⟨Engine.always Assembly.link, 1⟩ uploaded := .long (by decide)
  have undeclared : uploaded.declaredLength? = none := by decide +kernel
  have passes : ¬ Refuses ⟨Engine.always Assembly.link, 2⟩ uploaded := by
    rintro (⟨declares, -⟩ | exceeds | ⟨member, fault⟩)
    · rw [← HttpRequest.declaredLength?_eq_some_iff, undeclared] at declares
      cases declares
    · exact absurd exceeds (by decide)
    · have drained : Source.drainItems uploaded.body.items = (uploaded.content, none) := rfl
      exact (Source.drainItems_eq_iff.1 drained).1 _ member fault
  obtain ⟨status, requests, -⟩ :=
    (handle_limits_bodies ⟨Engine.always Assembly.link, 1⟩ o uploaded () path).1 long
  obtain ⟨body, answered, first, later, made, same⟩ :=
    (handle_limits_bodies ⟨Engine.always Assembly.link, 2⟩ o uploaded () path).2 passes
  refine ⟨status, requests, first, later, ?_, same.trans body⟩
  rw [answered]
  exact made

end Proxy

end Transclusion
