import Transclusion.Failure
import Transclusion.Message.Basic

/-!
# Origins and runs

An origin answers requests, and may answer the same request differently as time goes on. A run is
a computation that talks to an origin; it gives a value, the requests it made in order, and the
state that the origin is left in.

## Main results

`Run.requests_bind`: the requests of a sequence are those of its parts, one after the other.
-/

namespace Transclusion

/-- What an origin says to a request. -/
abbrev Reply := Except FetchFailure Response

/-- An origin with states `σ`. -/
structure Origin (σ : Type) where
  reply : σ → Request → Reply × σ

/-- An origin whose replies depend on nothing but the request. -/
def Origin.stateless (reply : Request → Reply) : Origin Unit := ⟨fun _ r => (reply r, ())⟩

/-- What a run comes to. -/
structure Outcome (σ α : Type) where
  value : α
  requests : List Request
  state : σ

/-- A computation that talks to an origin with states `σ`. -/
def Run (σ α : Type) := σ → Outcome σ α

namespace Run

variable {σ α β : Type}

def pure (a : α) : Run σ α := fun s => ⟨a, [], s⟩

def bind (x : Run σ α) (f : α → Run σ β) : Run σ β := fun s =>
  let first := x s
  let second := f first.value first.state
  ⟨second.value, first.requests ++ second.requests, second.state⟩

instance : Monad (Run σ) where
  pure := pure
  bind := bind

def dispatch (o : Origin σ) (r : Request) : Run σ Reply := fun s =>
  let (reply, next) := o.reply s r
  ⟨reply, [r], next⟩

/-- Run a step for each member of a list, in order, and put the results one after the other. -/
def gather (step : α → Run σ (List β)) : List α → Run σ (List β)
  | [] => pure []
  | a :: as => do
    let here ← step a
    let there ← gather step as
    return here ++ there

@[simp] theorem pure_apply (a : α) (s : σ) : (Pure.pure a : Run σ α) s = ⟨a, [], s⟩ := rfl

theorem bind_apply (x : Run σ α) (f : α → Run σ β) (s : σ) :
    (x >>= f) s = ⟨(f (x s).value (x s).state).value,
      (x s).requests ++ (f (x s).value (x s).state).requests,
      (f (x s).value (x s).state).state⟩ := rfl

@[simp] theorem value_bind (x : Run σ α) (f : α → Run σ β) (s : σ) :
    ((x >>= f) s).value = (f (x s).value (x s).state).value := rfl

/-- The requests of a sequence are those of its parts, one after the other. -/
@[simp] theorem requests_bind (x : Run σ α) (f : α → Run σ β) (s : σ) :
    ((x >>= f) s).requests = (x s).requests ++ (f (x s).value (x s).state).requests := rfl

@[simp] theorem state_bind (x : Run σ α) (f : α → Run σ β) (s : σ) :
    ((x >>= f) s).state = (f (x s).value (x s).state).state := rfl

instance : LawfulMonad (Run σ) := LawfulMonad.mk' (Run σ)
  (by intro α x; funext s; simp [Functor.map, bind, pure])
  (by intro α β a f; funext s; simp [Bind.bind, Pure.pure, bind, pure])
  (by intro α β γ x f g; funext s; simp [Bind.bind, bind])

/-- Steps for the members of two lists are done one list after the other. -/
theorem gather_append (step : α → Run σ (List β)) (xs ys : List α) :
    gather step (xs ++ ys) = (do
      let front ← gather step xs
      let back ← gather step ys
      return front ++ back) := by
  induction xs with
  | nil =>
    change gather step ys = Pure.pure [] >>= _
    simp
  | cons x xs ih => simp [gather, ih, ← List.append_assoc]

end Run

end Transclusion
