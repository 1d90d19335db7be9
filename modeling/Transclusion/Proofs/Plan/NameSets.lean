import Mathlib.Data.List.Forall2
import Transclusion.Proofs.Plan.Claims

/-!
# Names as sets

Names are listed in the order in which they were asked for, and a name may be listed twice. Neither
matters to a plan: the matchers come in an order of their own, and what each of them hands on to the
content of its blocks is again a list of which only the members count.

## Main results

`Resolution.resolve_same`: lists with the same members resolve to plans that are the same up to the
order and the repetitions of the names in them.
-/

namespace Transclusion

/-- Whether two lists have the same members, in whatever order and however often. -/
def SameMembers {α : Type} (xs ys : List α) : Prop := ∀ x, x ∈ xs ↔ x ∈ ys

namespace SameMembers

variable {α β : Type} {xs ys : List α}

theorem refl (xs : List α) : SameMembers xs xs := fun _ => Iff.rfl

theorem filter (same : SameMembers xs ys) (p : α → Bool) :
    SameMembers (xs.filter p) (ys.filter p) := by
  intro x
  rw [List.mem_filter, List.mem_filter, same x]

theorem filterMap (same : SameMembers xs ys) (f : α → Option β) :
    SameMembers (xs.filterMap f) (ys.filterMap f) := by
  intro y
  simp only [List.mem_filterMap, same _]

theorem isEmpty_eq (same : SameMembers xs ys) : xs.isEmpty = ys.isEmpty := by
  rw [Bool.eq_iff_iff, List.isEmpty_iff, List.isEmpty_iff, List.eq_nil_iff_forall_not_mem,
    List.eq_nil_iff_forall_not_mem]
  simp only [same _]

theorem contains_eq [DecidableEq α] (same : SameMembers xs ys) (x : α) :
    xs.contains x = ys.contains x := by
  rw [Bool.eq_iff_iff, List.contains_iff_mem, List.contains_iff_mem, same x]

theorem all_eq (same : SameMembers xs ys) (p : α → Bool) : xs.all p = ys.all p := by
  rw [Bool.eq_iff_iff, List.all_eq_true, List.all_eq_true]
  simp only [same _]

end SameMembers

theorem Matcher.presentsAll_eq (m : Matcher) {names others : List String}
    (same : SameMembers names others) : m.presentsAll names = m.presentsAll others := by
  rw [presentsAll, presentsAll, same.all_eq]

/-- Entries that differ in nothing but the order and the repetitions of their names. -/
inductive PlanEntry.Same : PlanEntry → PlanEntry → Prop where
  | exclude (matcher : Matcher) : Same (.exclude matcher) (.exclude matcher)
  | keep (matcher : Matcher) : Same (.keep matcher) (.keep matcher)
  | expand (matcher : Matcher) {names others : List String} (same : SameMembers names others) :
      Same (.expand matcher names) (.expand matcher others)

theorem PlanEntry.select_same (matcher : Matcher) {names others : List String}
    (same : SameMembers names others) : Same (select matcher names) (select matcher others) := by
  unfold select
  rw [same.isEmpty_eq]
  split
  · exact .keep matcher
  · exact .expand matcher same

namespace Resolution

/-- Resolutions whose plans have the same entries at the same places. -/
inductive Same : Resolution → Resolution → Prop where
  | halt : Same .halt .halt
  | verbatim : Same .verbatim .verbatim
  | plan {entries others : List PlanEntry} (same : List.Forall₂ PlanEntry.Same entries others) :
      Same (.plan entries) (.plan others)

theorem Same.proceeds_eq {resolution other : Resolution} (same : Same resolution other) :
    resolution.proceeds = other.proceeds := by
  cases same <;> rfl

theorem ofPlan_same {entries others : List PlanEntry}
    (same : List.Forall₂ PlanEntry.Same entries others) :
    Same (ofPlan entries) (ofPlan others) := by
  cases same with
  | nil => exact .verbatim
  | cons first rest => exact .plan (.cons first rest)

/-- Claims of one matcher on the same names. -/
def SameClaim (claim other : Matcher × List NameMatch) : Prop :=
  claim.1 = other.1 ∧ SameMembers claim.2 other.2

/-- Every matcher claims the same of names with the same members, and leaves the same. -/
theorem claims_same (matchers : List Matcher) {names others : List String}
    (same : SameMembers names others) :
    List.Forall₂ SameClaim (claims matchers names).1 (claims matchers others).1 ∧
      SameMembers (claims matchers names).2 (claims matchers others).2 := by
  induction matchers generalizing names others with
  | nil => exact ⟨.nil, same⟩
  | cons m ms ih =>
    obtain ⟨later, left⟩ := ih (same.filter fun n => (m.matchName n).isNone)
    exact ⟨.cons ⟨rfl, same.filterMap m.matchName⟩ later, left⟩

theorem included?_same (trim : Bool) {claim other : Matcher × List NameMatch}
    (same : SameClaim claim other) :
    Option.Rel PlanEntry.Same ((selectedOf claim).included? trim) ((selectedOf other).included? trim) := by
  obtain ⟨m, hits⟩ := claim
  obtain ⟨_, hits'⟩ := other
  obtain ⟨rfl, hit⟩ := same
  have names : SameMembers (subNames hits) (subNames hits') := hit.filterMap _
  rw [included?_selectedOf, included?_selectedOf, names.isEmpty_eq, m.presentsAll_eq names]
  split
  · exact .none
  · exact .some (PlanEntry.select_same m names)

/-- Claims that are filtered by whether they are empty stay the same claims. -/
private theorem filter_same {claimed others : List (Matcher × List NameMatch)}
    (same : List.Forall₂ SameClaim claimed others) (p : Bool → Bool) :
    List.Forall₂ SameClaim (claimed.filter fun c => p c.2.isEmpty)
      (others.filter fun c => p c.2.isEmpty) := by
  refine List.rel_filter ?_ same
  intro claim other alike
  simp only [alike.2.isEmpty_eq]

private theorem isEmpty_eq {claimed others : List (Matcher × List NameMatch)}
    (same : List.Forall₂ SameClaim claimed others) : claimed.isEmpty = others.isEmpty := by
  cases same <;> rfl

theorem resolveNamed_same (matchers : List Matcher) {names others : List String}
    (same : SameMembers names others) (trim : Bool) :
    Same (resolveNamed matchers names trim) (resolveNamed matchers others trim) := by
  obtain ⟨claimed, left⟩ := claims_same matchers same
  have selected := filter_same claimed (! ·)
  have missing := filter_same claimed (·)
  simp only [resolveNamed_eq_claims, left.contains_eq, isEmpty_eq selected]
  split
  · exact .halt
  · refine ofPlan_same (List.rel_append ?_ ?_)
    · exact List.rel_filterMap (fun _ _ alike => included?_same _ alike) selected
    · split
      · refine List.rel_map ?_ missing
        rintro ⟨m, _⟩ ⟨_, _⟩ ⟨rfl, -⟩
        exact .exclude m
      · exact .nil

/-- Only the members of the names matter to a resolution, and to the plans inside it. -/
theorem resolve_same (matchers : List Matcher) {names others : List String}
    (same : SameMembers names others) (trim : Bool) :
    Same (resolve matchers names trim) (resolve matchers others trim) := by
  unfold resolve
  rw [same.isEmpty_eq]
  cases matchers with
  | nil => exact .halt
  | cons first rest =>
    dsimp only
    split
    next unnamed _ =>
      split
      · exact .verbatim
      · exact ofPlan_same (.cons (PlanEntry.select_same unnamed same) .nil)
    next =>
      split
      · exact resolveNamed_same _ same trim
      · split
        · exact .verbatim
        · exact resolveNamed_same _ (.refl _) true

end Resolution

end Transclusion
