import Mathlib.Data.List.FinRange
import Mathlib.Data.List.Indexes
import Transclusion.Proofs.Plan.Ownership

/-!
# What is stripped

A plan strips the blocks of the matchers that own none of the requested names. A name belongs to one
matcher only, the first that answers for it, so a matcher may be stripped although a name that it
would answer for was asked for; but then an earlier matcher answers for the name and is not stripped.

## Main results

`stripped_answered_before`: who answers for the names that a stripped matcher would answer for.
`resolve_strips_asked`: a matcher may be stripped although it was asked for by its own name.
-/

namespace Transclusion

theorem PlanEntry.select_ne_exclude (m other : Matcher) (names : List String) :
    select m names ≠ exclude other := by
  unfold select
  split <;> exact PlanEntry.noConfusion

namespace Resolution

variable {matchers : List Matcher} {names : List String} {trim : Bool}

def excluded : List PlanEntry → List Matcher :=
  List.filterMap fun entry => match entry with
    | .exclude m => some m
    | _ => none

theorem excluded_eq_nil {entries : List PlanEntry}
    (included : ∀ entry ∈ entries, ∀ m, entry ≠ .exclude m) : excluded entries = [] := by
  unfold excluded
  rw [List.filterMap_eq_nil_iff]
  intro entry member
  cases entry with
  | exclude m => exact absurd rfl (included _ member m)
  | keep | expand => rfl

/-- The matchers whose blocks are stripped, in the order of the plan. -/
def stripped : Resolution → List Matcher
  | plan entries => excluded entries
  | _ => []

/-- The names that matchers are asked for: if there are none, the name of the first matcher. -/
def asked : List Matcher → List String → List String
  | m :: _, [] => [m.name.getD ""]
  | _, names => names

/-- The positions of the matchers to which none of the names belongs. -/
def unclaimed (matchers : List Matcher) (names : List String) : List (Fin matchers.length) :=
  (List.finRange matchers.length).filter fun i => ∀ name ∈ names, owner? matchers name ≠ some i.val

theorem mem_unclaimed {i : Fin matchers.length} :
    i ∈ unclaimed matchers names ↔ ∀ name ∈ names, owner? matchers name ≠ some i.val := by
  simp [unclaimed]

theorem pairwise_unclaimed (matchers : List Matcher) (names : List String) :
    (unclaimed matchers names).Pairwise (· < ·) :=
  (List.pairwise_lt_finRange matchers.length).filter _

/-- The first matcher that answers for a name is the one that it belongs to. -/
theorem owner?_of_answers {i : Fin matchers.length} {name : String}
    (answers : (matchers.get i).matchName name ≠ none) :
    ∃ j ≤ i, owner? matchers name = some j.val ∧ (matchers.get j).matchName name ≠ none := by
  have answered : ∀ m : Matcher, decide (m.Covers name) = true ↔ m.matchName name ≠ none := by
    intro m
    rw [decide_eq_true_iff, ← Matcher.isSome_matchName_iff, Option.isSome_iff_ne_none]
  cases found : owner? matchers name with
  | none =>
    have missed := List.findIdx?_eq_none_iff.1 found (matchers.get i) (matchers.get_mem i)
    rw [(answered _).2 answers] at missed
    cases missed
  | some j =>
    obtain ⟨inside, covers, earlier⟩ := List.findIdx?_eq_some_iff_getElem.1 found
    refine ⟨⟨j, inside⟩, ?_, rfl, (answered _).1 covers⟩
    -- No matcher before the owner answers for the name.
    apply Nat.le_of_not_lt
    intro before
    exact earlier i before ((answered _).2 answers)

theorem excluded_ofPlan (entries : List PlanEntry) : (ofPlan entries).stripped = excluded entries := by
  cases entries with
  | nil => rfl
  | cons => rfl

theorem inclusion?_ne_exclude {strips : Bool} {m other : Matcher} {own : List String} :
    inclusion? strips m own ≠ some (.exclude other) := by
  unfold inclusion?
  dsimp only
  split
  · intro same
    cases same
  · intro same
    exact PlanEntry.select_ne_exclude m other _ (Option.some.inj same)

theorem filterMap_exclusion? (matchers : List Matcher) (names : List String) :
    ((owned matchers names).filterMap fun share => exclusion? share.1 share.2) =
      (unclaimed matchers names).map fun i => .exclude (matchers.get i) := by
  have shares : owned matchers names = (List.finRange matchers.length).map fun i =>
      (matchers.get i, names.filter fun name => owner? matchers name = some i.val) := by
    rw [owned, List.mapIdx_eq_ofFn, List.ofFn_eq_map]
  rw [shares, List.filterMap_map, unclaimed, ← List.filterMap_eq_map, List.filterMap_filter]
  apply List.filterMap_congr
  intro i _
  have free : (names.filter fun name => owner? matchers name = some i.val) = [] ↔
      ∀ name ∈ names, owner? matchers name ≠ some i.val := by
    simp
  simp only [Function.comp_apply, exclusion?, free, decide_eq_true_iff]

theorem excluded_ownedPlan (matchers : List Matcher) (names : List String) (trim : Bool) :
    excluded (ownedPlan matchers names trim) =
      if Trims matchers names trim then (unclaimed matchers names).map matchers.get else [] := by
  have kept : ∀ strips : Bool, excluded ((owned matchers names).filterMap fun share =>
      inclusion? strips share.1 share.2) = [] := by
    intro strips
    apply excluded_eq_nil
    rintro entry member m rfl
    obtain ⟨share, -, included⟩ := List.mem_filterMap.1 member
    exact inclusion?_ne_exclude included
  have stripping : excluded ((unclaimed matchers names).map fun i => .exclude (matchers.get i)) =
      (unclaimed matchers names).map matchers.get := by
    rw [excluded, List.filterMap_map, ← List.filterMap_eq_map]
    rfl
  unfold ownedPlan
  rw [excluded, List.filterMap_append, ← excluded, kept, List.nil_append, filterMap_exclusion?]
  by_cases strips : Trims matchers names trim
  · rw [if_pos strips, if_pos (decide_eq_true strips), stripping]
  · simp [strips, excluded]

/-- A resolution strips nothing or the matchers that own none of the names asked for. -/
theorem Means.stripped_eq {r : Resolution} (means : Means matchers names trim r) :
    r.stripped = [] ∨
      r.stripped = (unclaimed matchers (asked matchers names)).map matchers.get := by
  induction means with
  | unruled | unasked | single | stopped | satisfied => exact .inl rfl
  | @default m names _ isDefault asked =>
    refine .inl (excluded_eq_nil ?_)
    intro entry member other
    rw [List.mem_singleton.1 member]
    exact PlanEntry.select_ne_exclude m other names
  | @first m others own trim r named several first means ih =>
    obtain ⟨rfl, -⟩ := several
    have same : asked (m :: others) [] = [own] := by rw [asked, first, Option.getD_some]
    rw [same]
    exact ih
  | @planned names trim named present =>
    have same : asked matchers names = names := by
      cases names with
      | nil => exact absurd rfl present
      | cons => cases matchers <;> rfl
    rw [same, stripped, excluded_ownedPlan]
    split
    · exact .inr rfl
    · exact .inl rfl

/-- The stripped matchers stand in the order of the list. If a requested name is that of a stripped
matcher or lies below it, an earlier matcher answers for the name, and that one is not stripped. -/
theorem stripped_answered_before (matchers : List Matcher) (names : List String) (trim : Bool) :
    ∃ positions : List (Fin matchers.length), positions.Pairwise (· < ·) ∧
      (resolve matchers names trim).stripped = positions.map matchers.get ∧
      ∀ i ∈ positions, ∀ name ∈ asked matchers names, (matchers.get i).matchName name ≠ none →
        ∃ j < i, j ∉ positions ∧ (matchers.get j).matchName name ≠ none := by
  rcases (means_resolve matchers names trim).stripped_eq with nothing | unowned
  · exact ⟨[], .nil, nothing, by simp⟩
  · refine ⟨_, pairwise_unclaimed matchers _, unowned, ?_⟩
    intro i member name requested answers
    obtain ⟨j, upTo, owner, answers'⟩ := owner?_of_answers answers
    have free := mem_unclaimed.1 member name requested
    have claims : j ∉ unclaimed matchers (asked matchers names) := by
      intro unclaims
      exact mem_unclaimed.1 unclaims name requested owner
    refine ⟨j, lt_of_le_of_ne upTo ?_, claims, answers'⟩
    rintro rfl
    exact free owner

/-- A matcher for sections of a page. -/
def sectionNamed (name : String) : Matcher := .make (some name) default (some default) []

/-- A name below an earlier matcher is taken by that one, even if it is the name of a later matcher.
Of two matchers with one name the second is stripped, also when nothing is asked for. -/
theorem resolve_strips_asked :
    (∃ m ∈ (resolve [sectionNamed "a", sectionNamed "a.b"] ["a.b"] true).stripped,
      m.matchName "a.b" = some .exact) ∧
    ∃ m ∈ (resolve [sectionNamed "a", sectionNamed "a"] [] false).stripped,
      ∃ name ∈ asked [sectionNamed "a", sectionNamed "a"] [], m.matchName name = some .exact := by
  have below : (resolve [sectionNamed "a", sectionNamed "a.b"] ["a.b"] true).stripped.map (·.name) =
      [some "a.b"] := by decide +kernel
  have twice : (resolve [sectionNamed "a", sectionNamed "a"] [] false).stripped.map (·.name) =
      [some "a"] := by decide +kernel
  have own {m : Matcher} {name : String} (named : m.name = some name) :
      m.matchName name = some .exact := by simp [Matcher.matchName, named]
  constructor
  · obtain ⟨m, member, named⟩ := List.mem_map.1 (below ▸ List.mem_singleton_self (some "a.b"))
    exact ⟨m, member, own named⟩
  · obtain ⟨m, member, named⟩ := List.mem_map.1 (twice ▸ List.mem_singleton_self (some "a"))
    exact ⟨m, member, "a", by decide, own named⟩

end Resolution

end Transclusion
