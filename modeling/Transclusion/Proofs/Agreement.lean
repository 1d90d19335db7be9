import Mathlib.Data.List.Forall2
import Transclusion.Proofs.Chunking
import Transclusion.Proofs.Replies

/-!
# Agreement of runs

Two origins agree if they say the same to every sequence of requests, up to the chunks that content
comes in. Their states need not be related otherwise: an origin may be any machine. Runs against
such origins agree if they make the same requests and come to related values, which sequences of
runs inherit from their parts.

## Main results

`Run.Alike.bind`, `Run.Alike.gather`: agreement of a sequence from the agreement of its parts.
`ContentReader.fetch_alike`: from origins that agree, the same content is fetched.
-/

namespace Transclusion

/-- Whether two replies are the same up to the chunks that content comes in. -/
inductive Reply.Alike : Reply → Reply → Prop
  | error (failure : FetchFailure) : Alike (.error failure) (.error failure)
  | ok {response response' : Response} (alike : response.Alike response') :
      Alike (.ok response) (.ok response')

variable {σ τ α β γ δ : Type}

namespace Origin

/-- Whether an origin in state `s` and another one in state `t` answer every sequence of requests
alike from there on. -/
def Alike (o : Origin σ) (o' : Origin τ) (s : σ) (t : τ) : Prop :=
  ∀ requests, List.Forall₂ Reply.Alike (o.replies s requests) (o'.replies t requests)

variable {o : Origin σ} {o' : Origin τ} {s : σ} {t : τ}

theorem Alike.reply (alike : o.Alike o' s t) (r : Request) :
    Reply.Alike (o.reply s r).1 (o'.reply t r).1 :=
  (List.forall₂_cons.1 (alike [r])).1

theorem Alike.next (alike : o.Alike o' s t) (r : Request) :
    o.Alike o' (o.reply s r).2 (o'.reply t r).2 :=
  fun requests => (List.forall₂_cons.1 (alike (r :: requests))).2

/-- Origins without states agree if they do on single requests. -/
theorem alike_stateless {reply reply' : Request → Reply}
    (alike : ∀ r, Reply.Alike (reply r) (reply' r)) :
    Alike (.stateless reply) (.stateless reply') () () := by
  intro requests
  induction requests with
  | nil => exact .nil
  | cons r requests ih => exact .cons (alike r) ih

end Origin

namespace Run

/-- Whether two runs against origins that agree come to related values by the same requests, and
leave origins that still agree. -/
def Alike (o : Origin σ) (o' : Origin τ) (rel : α → β → Prop) (x : Run σ α) (y : Run τ β) : Prop :=
  ∀ s t, o.Alike o' s t →
    rel (x s).value (y t).value ∧ (x s).requests = (y t).requests ∧
      o.Alike o' (x s).state (y t).state

variable {o : Origin σ} {o' : Origin τ} {rel : α → β → Prop} {rel' : γ → δ → Prop}

theorem Alike.pure {a : α} {b : β} (related : rel a b) :
    Alike o o' rel (Pure.pure a) (Pure.pure b) :=
  fun _ _ alike => ⟨related, rfl, alike⟩

theorem Alike.bind {x : Run σ α} {y : Run τ β} {f : α → Run σ γ} {g : β → Run τ δ}
    (first : Alike o o' rel x y) (further : ∀ a b, rel a b → Alike o o' rel' (f a) (g b)) :
    Alike o o' rel' (x >>= f) (y >>= g) := by
  intro s t alike
  obtain ⟨related, requests, between⟩ := first s t alike
  obtain ⟨related', requests', after⟩ := further _ _ related _ _ between
  exact ⟨related', by rw [Run.requests_bind, Run.requests_bind, requests, requests'], after⟩

theorem Alike.dispatch (r : Request) : Alike o o' Reply.Alike (dispatch o r) (dispatch o' r) :=
  fun _ _ alike => ⟨alike.reply r, rfl, alike.next r⟩

theorem Alike.bind_eq {x : Run σ α} {y : Run τ α} {f : α → Run σ γ} {g : α → Run τ δ}
    (first : Alike o o' Eq x y) (further : ∀ a, Alike o o' rel' (f a) (g a)) :
    Alike o o' rel' (x >>= f) (y >>= g) :=
  first.bind fun a _ same => same ▸ further a

theorem Alike.gather {f : α → Run σ (List γ)} {g : α → Run τ (List γ)}
    (steps : ∀ a, Alike o o' Eq (f a) (g a)) (as : List α) :
    Alike o o' Eq (gather f as) (gather g as) := by
  induction as with
  | nil => exact .pure rfl
  | cons a as ih => exact (steps a).bind_eq fun here => ih.bind_eq fun there => .pure rfl

end Run

theorem ContentReader.fetch_alike (c : ContentReader) (o : Origin σ) (o' : Origin τ) (r : Request) :
    Run.Alike o o' Eq (c.fetch o r) (c.fetch o' r) := by
  refine (Run.Alike.dispatch r).bind fun reply reply' alike => .pure ?_
  cases alike with
  | error failure => rfl
  | ok alike => exact c.contentOf_eq alike

end Transclusion
