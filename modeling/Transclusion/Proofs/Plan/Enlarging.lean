import Transclusion.Proofs.Plan.Wildcard

/-!
# Asking for more

Names that are asked for in addition never cost anything that was there before. Each of them belongs
to one matcher at most, so it can only take matchers away from those that are stripped. The wildcard
may turn trimming off, and nothing can turn it on again. Only where nothing was asked of any matcher
at first, so that the document was left alone, is there nothing to compare.

## Main results

`more_names_strip_less`: what more names do to a plan.
-/

namespace Transclusion.Resolution

variable {matchers like : List Matcher} {names more : List String} {trim : Bool} {i : Nat}

/-! ### What a plan strips -/

/-- Whether names strip anything from a document at all. -/
def Strips (matchers : List Matcher) (names : List String) (trim : Bool) : Prop :=
  AllNamed matchers ∧ Trims matchers names trim ∧ ¬ Unowned matchers names

instance : Decidable (Strips matchers names trim) :=
  inferInstanceAs (Decidable ((matchers ≠ [] ∧ ∀ m ∈ matchers, m.name ≠ none) ∧ _ ∧ ¬ _))

theorem stripped_select (m : Matcher) (names : List String) :
    (plan [.select m names]).stripped = [] := by
  apply excluded_eq_nil
  intro entry member other
  rw [List.mem_singleton.1 member]
  exact PlanEntry.select_ne_exclude m other names

theorem IsDefault.not_allNamed {m : Matcher} (isDefault : IsDefault matchers m) :
    ¬ AllNamed matchers := by
  obtain ⟨unnamed, before, after, rfl, -⟩ := isDefault
  intro named
  exact named.2 m (by simp) unnamed

theorem proceeds_iff (asked : names ≠ []) :
    (resolve matchers names trim).proceeds = true ↔
      matchers ≠ [] ∧
        ¬ (AllNamed matchers ∧ Trims matchers names trim ∧ Unowned matchers names) := by
  have means := means_resolve matchers names trim
  generalize resolve matchers names trim = r at means
  cases means with
  | unruled unruled => simp [unruled, proceeds]
  | unasked | single | first => exact absurd rfl asked
  | default isDefault =>
    have unnamed := isDefault.not_allNamed
    obtain ⟨-, before, after, rfl, -⟩ := isDefault
    simp [proceeds, unnamed]
  | stopped named _ trims unowned => simp [proceeds, named, trims, unowned]
  | satisfied named _ goes | planned named _ goes =>
    simp only [proceeds, true_iff]
    exact ⟨named.1, fun stops => goes stops.2⟩

theorem excluded_ownedPlan_of_goes (named : AllNamed matchers)
    (goes : ¬ (Trims matchers names trim ∧ Unowned matchers names)) :
    excluded (ownedPlan matchers names trim) =
      if Strips matchers names trim then (unclaimed matchers names).map matchers.get else [] := by
  rw [excluded_ownedPlan]
  apply if_congr _ rfl rfl
  constructor
  · intro trims
    exact ⟨named, trims, fun unowned => goes ⟨trims, unowned⟩⟩
  · rintro ⟨-, trims, -⟩
    exact trims

theorem stripped_eq (asked : names ≠ []) :
    (resolve matchers names trim).stripped =
      if Strips matchers names trim then (unclaimed matchers names).map matchers.get else [] := by
  have means := means_resolve matchers names trim
  generalize resolve matchers names trim = r at means
  cases means with
  | unruled unruled => simp [Strips, AllNamed, unruled, stripped]
  | unasked | single | first => exact absurd rfl asked
  | default isDefault =>
    rw [stripped_select, if_neg fun strips => isDefault.not_allNamed strips.1]
  | stopped named _ trims unowned =>
    rw [if_neg fun strips => strips.2.2 unowned]
    rfl
  | satisfied named _ goes nothing =>
    rw [← excluded_ownedPlan_of_goes named goes, nothing]
    rfl
  | planned named _ goes => exact excluded_ownedPlan_of_goes named goes

/-! ### Positions -/

/-- Whether names strip the matcher at a position. A plan holds matchers and not their positions, and
two of them may be alike; so this is said of whatever matcher of the same name stands there. -/
def StripsAt (matchers : List Matcher) (names : List String) (trim : Bool) (i : Nat) : Prop :=
  ∀ like : List Matcher, like.map (·.name) = matchers.map (·.name) →
    ∃ m, like[i]? = some m ∧ m ∈ (resolve like names trim).stripped

theorem owner?_congr (alike : like.map (·.name) = matchers.map (·.name)) (name : String) :
    owner? like name = owner? matchers name := by
  -- Nothing but its name decides what a matcher covers.
  have byName : ∀ ms : List Matcher, owner? ms name =
      (ms.map (·.name)).findIdx? fun own => decide (Matcher.Covers ⟨own, default, none, []⟩ name) := by
    intro ms
    rw [List.findIdx?_map, owner?]
    congr 1
  rw [byName like, byName matchers, alike]

theorem strips_congr (alike : like.map (·.name) = matchers.map (·.name)) :
    Strips like names trim ↔ Strips matchers names trim := by
  have byName : ∀ ms : List Matcher,
      AllNamed ms ↔ ms.map (·.name) ≠ [] ∧ ∀ own ∈ ms.map (·.name), own ≠ none := by
    intro ms
    simp [AllNamed]
  simp only [Strips, byName, Trims, Unowned, owner?_congr alike, alike]

theorem mem_stripped_iff (asked : names ≠ []) {m : Matcher} :
    m ∈ (resolve matchers names trim).stripped ↔ Strips matchers names trim ∧
      ∃ j, matchers[j]? = some m ∧ ∀ name ∈ names, owner? matchers name ≠ some j := by
  rw [stripped_eq asked]
  by_cases strips : Strips matchers names trim
  · rw [if_pos strips, List.mem_map]
    simp only [strips, true_and, mem_unclaimed]
    constructor
    · rintro ⟨j, free, rfl⟩
      exact ⟨j, by simp, free⟩
    · rintro ⟨j, found, free⟩
      obtain ⟨inside, rfl⟩ := List.getElem?_eq_some_iff.1 found
      exact ⟨⟨j, inside⟩, free, rfl⟩
  · simp [strips]

/-- The matchers with marks that tell their positions apart. -/
def marked (matchers : List Matcher) : List Matcher :=
  matchers.mapIdx fun i m => { m with present := List.replicate i "" }

theorem name_marked (matchers : List Matcher) :
    (marked matchers).map (·.name) = matchers.map (·.name) := by
  apply List.ext_getElem?
  intro i
  simp [marked, Function.comp_def]

theorem position_of_marked {m : Matcher} {j : Nat} (here : (marked matchers)[i]? = some m)
    (there : (marked matchers)[j]? = some m) : i = j := by
  simp only [marked, List.getElem?_mapIdx, Option.map_eq_some_iff] at here there
  obtain ⟨_, -, rfl⟩ := here
  obtain ⟨_, -, same⟩ := there
  have marks := congrArg (fun m => m.present.length) same
  simpa using marks.symm

/-- The stripped positions are those to which none of the names belongs. -/
theorem stripsAt_iff (asked : names ≠ []) :
    StripsAt matchers names trim i ↔ Strips matchers names trim ∧ i < matchers.length ∧
      ∀ name ∈ names, owner? matchers name ≠ some i := by
  constructor
  · intro strips
    obtain ⟨m, here, member⟩ := strips (marked matchers) (name_marked matchers)
    obtain ⟨some, j, there, free⟩ := (mem_stripped_iff asked).1 member
    obtain rfl := position_of_marked here there
    have inside := (List.getElem?_eq_some_iff.1 here).1
    rw [marked, List.length_mapIdx] at inside
    simp only [owner?_congr (name_marked matchers)] at free
    exact ⟨(strips_congr (name_marked matchers)).1 some, inside, free⟩
  · rintro ⟨some, inside, free⟩ like alike
    have length : like.length = matchers.length := by
      simpa using congrArg List.length alike
    have inside' : i < like.length := length ▸ inside
    refine ⟨like[i], List.getElem?_eq_getElem inside', (mem_stripped_iff asked).2 ?_⟩
    refine ⟨(strips_congr alike).2 some, i, List.getElem?_eq_getElem inside', ?_⟩
    simpa only [owner?_congr alike] using free

/-! ### More names -/

theorem Trims.of_subset (subset : names ⊆ more) (trims : Trims matchers more trim) :
    Trims matchers names trim := by
  obtain ⟨on, noWildcard⟩ := trims
  refine ⟨on, ?_⟩
  rintro ⟨member, free⟩
  exact noWildcard ⟨subset member, free⟩

theorem Unowned.of_subset (subset : names ⊆ more) (unowned : Unowned matchers more) :
    Unowned matchers names := fun name member => unowned name (subset member)

theorem Strips.of_subset (subset : names ⊆ more) (asked : names ≠ [])
    (goes : (resolve matchers names trim).proceeds = true) (strips : Strips matchers more trim) :
    Strips matchers names trim := by
  obtain ⟨named, trims, -⟩ := strips
  have trims := trims.of_subset subset
  refine ⟨named, trims, fun unowned => ?_⟩
  exact ((proceeds_iff asked).1 goes).2 ⟨named, trims, unowned⟩

theorem unclaimed_sublist (subset : names ⊆ more) :
    (unclaimed matchers more).Sublist (unclaimed matchers names) := by
  apply List.monotone_filter_right
  intro i free
  simp only [decide_eq_true_eq] at free ⊢
  intro name member
  exact free name (subset member)

/-- If names are enough for a resolution that goes on, then so are more names. What these strip has
been stripped before, position by position and in the same order. -/
theorem more_names_strip_less (matchers : List Matcher) {names more : List String} (trim : Bool)
    (asked : names ≠ []) (subset : names ⊆ more)
    (goes : (resolve matchers names trim).proceeds = true) :
    (resolve matchers more trim).proceeds = true ∧
      (∀ i, StripsAt matchers more trim i → StripsAt matchers names trim i) ∧
      (resolve matchers more trim).stripped.Sublist (resolve matchers names trim).stripped := by
  have asked' : more ≠ [] := by
    rintro rfl
    exact asked (List.subset_nil.1 subset)
  refine ⟨?_, ?_, ?_⟩
  · obtain ⟨ruled, free⟩ := (proceeds_iff asked).1 goes
    rw [proceeds_iff asked']
    refine ⟨ruled, ?_⟩
    rintro ⟨named, trims, unowned⟩
    exact free ⟨named, trims.of_subset subset, unowned.of_subset subset⟩
  · intro i
    rw [stripsAt_iff asked', stripsAt_iff asked]
    rintro ⟨strips, inside, free⟩
    refine ⟨strips.of_subset subset asked goes, inside, ?_⟩
    intro name member
    exact free name (subset member)
  · rw [stripped_eq asked', stripped_eq asked]
    split
    next strips =>
      rw [if_pos (strips.of_subset subset asked goes)]
      exact (unclaimed_sublist subset).map _
    next => exact List.nil_sublist _

/-- A name that is asked for besides another one, with a third matcher that nobody asks for. -/
theorem more_names_strip_less_sections :
    ["body"] ≠ [] ∧ ["body"] ⊆ ["foot.note", "body"] ∧
      (resolve [sectionNamed "head", sectionNamed "body", sectionNamed "foot"] ["body"]
        true).proceeds = true ∧
      (resolve [sectionNamed "head", sectionNamed "body", sectionNamed "foot"] ["foot.note", "body"]
        true).proceeds = true ∧
      StripsAt [sectionNamed "head", sectionNamed "body", sectionNamed "foot"] ["foot.note", "body"]
        true 0 ∧
      StripsAt [sectionNamed "head", sectionNamed "body", sectionNamed "foot"] ["body"] true 0 := by
  have asked : ["body"] ≠ [] := List.cons_ne_nil _ _
  have subset : ["body"] ⊆ ["foot.note", "body"] := by decide
  have goes : (resolve [sectionNamed "head", sectionNamed "body", sectionNamed "foot"] ["body"]
      true).proceeds = true := by decide +kernel
  obtain ⟨goesOn, fewer, -⟩ := more_names_strip_less _ true asked subset goes
  have first : StripsAt [sectionNamed "head", sectionNamed "body", sectionNamed "foot"]
      ["foot.note", "body"] true 0 := by
    rw [stripsAt_iff (List.cons_ne_nil _ _)]
    decide +kernel
  exact ⟨asked, subset, goes, goesOn, first, fewer 0 first⟩

end Transclusion.Resolution
