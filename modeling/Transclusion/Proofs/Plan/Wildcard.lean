import Transclusion.Proofs.Plan.Stripping

/-!
# The wildcard

The wildcard among the requested names turns trimming off, so that nothing is stripped however many
matchers nobody asked for. It is a name all the same: a matcher that is called like it answers for
it, and then trimming stays on.

## Main results

`wildcard_strips`: a plan for the wildcard always comes about, and what it strips.
`wildcard_strips_beside_namesake`: beside a matcher called like the wildcard something is stripped.
-/

namespace Transclusion

/-- No name has the wildcard below it, since what lies below a name has a dot in it. -/
theorem Matcher.covers_wildcard_iff {m : Matcher} :
    m.Covers Resolution.wildcard ↔ m.name = some Resolution.wildcard := by
  constructor
  · rintro ⟨own, named, rfl | ⟨rest, below⟩⟩
    · exact named
    · have dot : '.' ∈ (own ++ "." ++ rest).toList := by simp
      rw [← below] at dot
      exact absurd dot (by decide)
  · intro named
    exact ⟨_, named, .inl rfl⟩

namespace Resolution

variable {matchers : List Matcher} {names : List String} {trim : Bool}

theorem owner?_wildcard_eq_none_iff :
    owner? matchers wildcard = none ↔ ∀ m ∈ matchers, m.name ≠ some wildcard := by
  rw [owner?, List.findIdx?_eq_none_iff]
  simp only [decide_eq_false_iff_not, Matcher.covers_wildcard_iff, ne_eq]

theorem trims_iff_of_wildcard (asked : wildcard ∈ names) :
    Trims matchers names trim ↔ trim = true ∧ ∃ m ∈ matchers, m.name = some wildcard := by
  simp [Trims, asked, owner?_wildcard_eq_none_iff]

/-- If trimming stays on, the wildcard belongs to a matcher, so that something is asked for. -/
theorem not_unowned_of_wildcard (asked : wildcard ∈ names) (trims : Trims matchers names trim) :
    ¬ Unowned matchers names := by
  intro unowned
  exact trims.2 ⟨asked, unowned wildcard asked⟩

theorem proceeds_ofPlan (entries : List PlanEntry) : (ofPlan entries).proceeds = true := by
  cases entries <;> rfl

/-- Names with the wildcard among them always resolve to something that goes on. Nothing is stripped
unless trimming is on, every matcher has a name, and one of them is called like the wildcard. That
one answers for the wildcard, and those matchers are stripped to which no requested name belongs. -/
theorem wildcard_strips (matchers : List Matcher) (names : List String) (trim : Bool)
    (ruled : matchers ≠ []) (asked : wildcard ∈ names) :
    (resolve matchers names trim).proceeds = true ∧
      (resolve matchers names trim).stripped =
        if trim = true ∧ (∀ m ∈ matchers, m.name ≠ none) ∧ ∃ m ∈ matchers, m.name = some wildcard
        then (unclaimed matchers names).map matchers.get else [] := by
  have present : names ≠ [] := List.ne_nil_of_mem asked
  by_cases allNamed : ∀ m ∈ matchers, m.name ≠ none
  · have goes : ¬ (Trims matchers names trim ∧ Unowned matchers names) := by
      rintro ⟨trims, unowned⟩
      exact not_unowned_of_wildcard asked trims unowned
    rw [resolve_of_allNamed ⟨ruled, allNamed⟩ present, resolveNamed_eq, if_neg goes, excluded_ofPlan,
      excluded_ownedPlan]
    refine ⟨proceeds_ofPlan _, if_congr ?_ rfl rfl⟩
    rw [trims_iff_of_wildcard asked, and_iff_right allNamed]
  · -- The first matcher without a name takes all names, and nothing is stripped.
    have unnamed : (matchers.find? Matcher.isUnnamed).isSome = true := by
      simpa [Matcher.isUnnamed] using allNamed
    obtain ⟨m, found⟩ := Option.isSome_iff_exists.1 unnamed
    have alone : resolve matchers names trim = plan [.select m names] := by
      rw [resolve_of_isDefault (isDefault_iff.2 found), List.isEmpty_eq_false_iff.2 present]
      rfl
    rw [alone, if_neg fun strips => allNamed strips.2.1]
    refine ⟨rfl, excluded_eq_nil ?_⟩
    intro entry member other
    rw [List.mem_singleton.1 member]
    exact PlanEntry.select_ne_exclude m other names

/-- The wildcard beside a name that is asked for, with trimming on. -/
theorem wildcard_strips_nothing_of_sections :
    [sectionNamed "head", sectionNamed "body"] ≠ [] ∧ wildcard ∈ ["body.title", "*"] ∧
      (resolve [sectionNamed "head", sectionNamed "body"] ["body.title", "*"] true).proceeds = true ∧
      (resolve [sectionNamed "head", sectionNamed "body"] ["body.title", "*"] true).stripped = [] := by
  have ruled : [sectionNamed "head", sectionNamed "body"] ≠ [] := List.cons_ne_nil _ _
  have asked : wildcard ∈ ["body.title", "*"] := by decide
  obtain ⟨goes, strips⟩ := wildcard_strips _ ["body.title", "*"] true ruled asked
  refine ⟨ruled, asked, goes, strips.trans (if_neg ?_)⟩
  rintro ⟨-, -, m, member, named⟩
  have names : m.name ∈ [some "head", some "body"] := List.mem_map_of_mem (f := (·.name)) member
  rw [named] at names
  exact absurd names (by decide)

/-- A matcher called like the wildcard answers for it as for any other name. The wildcard does not
turn trimming off then, and the blocks of the matcher beside it are stripped. -/
theorem wildcard_strips_beside_namesake :
    [sectionNamed "*", sectionNamed "body"] ≠ [] ∧ wildcard ∈ ["*"] ∧
      (resolve [sectionNamed "*", sectionNamed "body"] ["*"] true).stripped.map (·.name) =
        [some "body"] := by
  refine ⟨List.cons_ne_nil _ _, by decide, ?_⟩
  decide +kernel

end Resolution

end Transclusion
