import Transclusion.Origin

/-!
# Traces

A run that takes one step for each member of a list, seen step by step. The steps share nothing but
the state of the origin, which each takes over from the one before.

## Main results

`gather_apply`: gathering gives the values and the requests of the single steps, in their order.
-/

namespace Transclusion.Run

variable {σ α β γ : Type}

/-- What the steps for the members of a list come to. -/
def trace (step : α → Run σ β) : List α → σ → List (Outcome σ β)
  | [], _ => []
  | a :: as, s => step a s :: trace step as (step a s).state

/-- The state in which the steps for the members of a list leave the origin. -/
def after (step : α → Run σ β) : List α → σ → σ
  | [], s => s
  | a :: as, s => after step as (step a s).state

theorem gather_apply (step : α → Run σ (List β)) (as : List α) (s : σ) :
    gather step as s =
      ⟨(trace step as s).flatMap (·.value), (trace step as s).flatMap (·.requests),
        after step as s⟩ := by
  induction as generalizing s with
  | nil => rfl
  | cons a as ih =>
    simp only [gather, bind_apply, pure_apply, ih, trace, after, List.flatMap_cons,
      List.append_nil]

/-- Gathering over the parts of a list is gathering over the list. -/
theorem gather_flatMap (step : β → Run σ (List γ)) (parts : α → List β) (as : List α) :
    gather step (as.flatMap parts) = gather (fun a => gather step (parts a)) as := by
  induction as with
  | nil => rfl
  | cons a as ih => simp only [List.flatMap_cons, gather_append, gather, ih]

/-- Steps that find the origin without memory do not depend on the ones before. -/
theorem trace_unit (step : α → Run Unit β) (as : List α) : trace step as () = as.map (step · ()) := by
  induction as with
  | nil => rfl
  | cons a as ih => rw [trace, List.map_cons, ← ih]

theorem gather_singleton (step : α → Run σ (List β)) (a : α) : gather step [a] = step a := by
  funext s
  simp [gather_apply, trace, after]

end Transclusion.Run
