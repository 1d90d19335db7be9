import Transclusion.Origin

/-!
# Replies

What an origin says to requests that are made one after the other, and the state they leave it in.
An origin shows nothing else of its states to a run.

## Main results

`replies_append`, `after_append`: requests that follow others are answered from where these have
left the origin.
-/

namespace Transclusion.Origin

variable {σ : Type}

/-- The replies to requests that are made one after the other, from the state `s` on. -/
def replies (o : Origin σ) : σ → List Request → List Reply
  | _, [] => []
  | s, r :: rs => (o.reply s r).1 :: replies o (o.reply s r).2 rs

/-- The state that requests leave the origin in. -/
def after (o : Origin σ) : σ → List Request → σ
  | s, [] => s
  | s, r :: rs => after o (o.reply s r).2 rs

/-- Whether the replies of an origin depend on nothing but the request, whatever its state. -/
def IsStateless (o : Origin σ) : Prop := ∀ s t r, (o.reply s r).1 = (o.reply t r).1

theorem isStateless_stateless (reply : Request → Reply) : (stateless reply).IsStateless :=
  fun _ _ _ => rfl

theorem replies_append (o : Origin σ) (s : σ) (rs more : List Request) :
    o.replies s (rs ++ more) = o.replies s rs ++ o.replies (o.after s rs) more := by
  induction rs generalizing s with
  | nil => rfl
  | cons r rs ih => simp only [List.cons_append, replies, after, ih]

theorem after_append (o : Origin σ) (s : σ) (rs more : List Request) :
    o.after s (rs ++ more) = o.after (o.after s rs) more := by
  induction rs generalizing s with
  | nil => rfl
  | cons r rs ih => simp only [List.cons_append, after, ih]

end Transclusion.Origin
