import Transclusion.Proofs.Plan.Claims

/-!
# Ownership of names

A requested name belongs to the first matcher whose name it is or lies below. What names resolve to
can be read off their owners, without following how the matchers take the names from each other:
which blocks are included, what is asked for inside them, and which blocks are stripped.

## Main results

`claims_eq_owned`: the matchers claim the names that they own.
`resolve_eq_iff_means`: the rules by which names resolve, and that there are no others.
-/

namespace Transclusion

namespace Matcher

/-- Whether a name is that of the matcher or lies below it. -/
def Covers (m : Matcher) (name : String) : Prop :=
  ∃ own, m.name = some own ∧ (name = own ∨ ∃ rest, name = own ++ "." ++ rest)

/-- What a name that lies below the matcher asks for there. -/
def rest? (m : Matcher) (name : String) : Option String :=
  m.name.bind fun own => Text.after (own ++ ".") name

theorem rest?_eq_some_iff {m : Matcher} {name rest : String} :
    m.rest? name = some rest ↔ ∃ own, m.name = some own ∧ name = own ++ "." ++ rest := by
  unfold rest?
  rw [Option.bind_eq_some_iff]
  simp only [Text.after_eq_some_iff]

theorem isSome_matchName_iff {m : Matcher} {name : String} :
    (m.matchName name).isSome = true ↔ m.Covers name := by
  unfold matchName Covers
  cases hm : m.name with
  | none => simp
  | some own =>
    by_cases same : own = name
    · simp [same]
    · have below : (Text.after (own ++ ".") name).isSome = true ↔
          ∃ rest, name = own ++ "." ++ rest := by
        simp only [Option.isSome_iff_exists, Text.after_eq_some_iff]
      simp [same, below, Ne.symm same]

instance (m : Matcher) : DecidablePred m.Covers :=
  fun _ => decidable_of_iff _ isSome_matchName_iff

theorem rest?_own {m : Matcher} {own : String} (named : m.name = some own) :
    m.rest? own = none := by
  cases below : m.rest? own with
  | none => rfl
  | some rest =>
    obtain ⟨_, named', longer⟩ := rest?_eq_some_iff.1 below
    cases named.symm.trans named'
    have lengths := congrArg String.length longer
    simp only [String.length_append] at lengths
    have dot : ".".length = 1 := rfl
    omega

/-- The names handed on are what the requested names ask for below the matcher. -/
theorem subNames_matchName (m : Matcher) (names : List String) :
    Resolution.subNames (names.filterMap m.matchName) = names.filterMap m.rest? := by
  unfold Resolution.subNames
  rw [List.filterMap_filterMap]
  apply List.filterMap_congr
  intro name _
  cases named : m.name with
  | none => simp [matchName, rest?, named]
  | some own =>
    by_cases same : own = name
    · subst same
      simp [matchName, named, rest?_own named]
    · have below : m.rest? name = Text.after (own ++ ".") name := by simp [rest?, named]
      rw [below]
      cases found : Text.after (own ++ ".") name <;> simp [matchName, named, same, found]

end Matcher

namespace Resolution

variable {matchers : List Matcher} {names : List String} {trim : Bool}

/-- The position of the matcher that a name belongs to. -/
def owner? (matchers : List Matcher) (name : String) : Option Nat :=
  matchers.findIdx? fun m => decide (m.Covers name)

theorem owner?_nil (name : String) : owner? [] name = none := rfl

theorem owner?_of_covers {m : Matcher} {name : String} (covers : m.Covers name)
    (ms : List Matcher) : owner? (m :: ms) name = some 0 := by
  simp [owner?, List.findIdx?_cons, covers]

theorem owner?_of_not_covers {m : Matcher} {name : String} (missed : ¬ m.Covers name)
    (ms : List Matcher) : owner? (m :: ms) name = (owner? ms name).map (· + 1) := by
  simp [owner?, List.findIdx?_cons, missed]

/-- The matchers, each with the names that belong to it in the order of the request. -/
def owned (matchers : List Matcher) (names : List String) : List (Matcher × List String) :=
  matchers.mapIdx fun i m => (m, names.filter fun name => owner? matchers name = some i)

theorem owned_cons (m : Matcher) (ms : List Matcher) (names : List String) :
    owned (m :: ms) names =
      (m, names.filter fun name => m.Covers name) ::
        owned ms (names.filter fun name => ¬ m.Covers name) := by
  have first : ∀ name, owner? (m :: ms) name = some 0 ↔ m.Covers name := by
    intro name
    by_cases covers : m.Covers name
    · simp [owner?_of_covers covers, covers]
    · simp [owner?_of_not_covers covers, covers]
  have later : ∀ i name, owner? (m :: ms) name = some (i + 1) ↔
      owner? ms name = some i ∧ ¬ m.Covers name := by
    intro i name
    by_cases covers : m.Covers name
    · simp [owner?_of_covers covers, covers]
    · simp [owner?_of_not_covers covers, covers]
  simp [owned, List.mapIdx_cons, first, later, List.filter_filter]

def claimOf (share : Matcher × List String) : Matcher × List NameMatch :=
  (share.1, share.2.filterMap share.1.matchName)

/-- Each matcher claims what it owns, whatever the matchers before it have taken. -/
theorem claims_eq_owned (matchers : List Matcher) (names : List String) :
    claims matchers names =
      ((owned matchers names).map claimOf, names.filter fun name => owner? matchers name = none) := by
  induction matchers generalizing names with
  | nil => simp [claims, owned, owner?_nil]
  | cons m ms ih =>
    have covered : ∀ name, m.matchName name = none ↔ ¬ m.Covers name := by
      intro name
      rw [← Matcher.isSome_matchName_iff, Option.not_isSome_iff_eq_none]
    -- What is left for the later matchers is what the first one does not cover.
    have left : (names.filter fun name => (m.matchName name).isNone) =
        names.filter fun name => ¬ m.Covers name := by
      apply List.filter_congr
      intro name _
      rw [Bool.eq_iff_iff, Option.isNone_iff_eq_none, covered, decide_eq_true_iff]
    have taken : names.filterMap m.matchName =
        (names.filter fun name => m.Covers name).filterMap m.matchName := by
      rw [List.filterMap_filter]
      apply List.filterMap_congr
      intro name _
      by_cases covers : m.Covers name
      · simp [covers]
      · simp [covers, (covered name).2 covers]
    have unowned : ∀ name, owner? (m :: ms) name = none ↔
        owner? ms name = none ∧ ¬ m.Covers name := by
      intro name
      by_cases covers : m.Covers name
      · simp [owner?_of_covers covers, covers]
      · simp [owner?_of_not_covers covers, covers]
    simp only [claims, left, taken, ih, owned_cons, claimOf, List.map_cons, List.filter_filter, unowned,
      Bool.decide_and]

/-- Whether blocks that nobody asks for are stripped. The wildcard prevents this, unless it belongs
to a matcher. -/
def Trims (matchers : List Matcher) (names : List String) (trim : Bool) : Prop :=
  trim = true ∧ ¬ (wildcard ∈ names ∧ owner? matchers wildcard = none)

instance : Decidable (Trims matchers names trim) := inferInstanceAs (Decidable (_ ∧ _))

def Unowned (matchers : List Matcher) (names : List String) : Prop :=
  ∀ name ∈ names, owner? matchers name = none

instance : Decidable (Unowned matchers names) := inferInstanceAs (Decidable (∀ _ ∈ _, _))

/-- The entry of a matcher that owns some names: none if blocks are stripped and its own already
hold all that is asked for inside them. -/
def inclusion? (strips : Bool) (m : Matcher) (own : List String) : Option PlanEntry :=
  let below := own.filterMap m.rest?
  if own = [] ∨ (strips = true ∧ below ≠ [] ∧ ∀ name ∈ below, name ∈ m.present) then none
  else some (.select m below)

/-- The entry of a matcher that owns no name. -/
def exclusion? (m : Matcher) (own : List String) : Option PlanEntry :=
  if own = [] then some (.exclude m) else none

/-- The plan for names by their owners, both parts in the order of the matchers. -/
def ownedPlan (matchers : List Matcher) (names : List String) (trim : Bool) : List PlanEntry :=
  let strips := decide (Trims matchers names trim)
  let shares := owned matchers names
  shares.filterMap (fun share => inclusion? strips share.1 share.2) ++
    if strips then shares.filterMap (fun share => exclusion? share.1 share.2) else []

theorem covers_of_mem_owned {share : Matcher × List String} (member : share ∈ owned matchers names)
    {name : String} (own : name ∈ share.2) : share.1.Covers name := by
  induction matchers generalizing names with
  | nil => simp [owned] at member
  | cons m ms ih =>
    rw [owned_cons, List.mem_cons] at member
    rcases member with rfl | later
    · simpa using (List.mem_filter.1 own).2
    · exact ih later

theorem isEmpty_claimOf {share : Matcher × List String} (member : share ∈ owned matchers names) :
    (claimOf share).2.isEmpty = share.2.isEmpty := by
  rw [Bool.eq_iff_iff, List.isEmpty_iff, List.isEmpty_iff]
  constructor
  · intro unclaimed
    rw [claimOf, List.filterMap_eq_nil_iff] at unclaimed
    rw [List.eq_nil_iff_forall_not_mem]
    intro name own
    have hit := Matcher.isSome_matchName_iff.2 (covers_of_mem_owned member own)
    rw [unclaimed name own] at hit
    cases hit
  · intro unowned
    rw [claimOf, unowned, List.filterMap_nil]

private theorem filter_claimOf (p : Bool → Bool) :
    ((owned matchers names).map claimOf).filter (fun claim => p claim.2.isEmpty) =
      ((owned matchers names).filter fun share => p share.2.isEmpty).map claimOf := by
  rw [List.filter_map]
  congr 1
  apply List.filter_congr
  intro share member
  rw [Function.comp_apply, isEmpty_claimOf member]

theorem unowned_iff : Unowned matchers names ↔ ∀ share ∈ owned matchers names, share.2 = [] := by
  induction matchers generalizing names with
  | nil => simp [Unowned, owned, owner?_nil]
  | cons m ms ih =>
    rw [owned_cons, List.forall_mem_cons, ← ih]
    simp only [Unowned, List.filter_eq_nil_iff, List.mem_filter, decide_eq_true_iff]
    constructor
    · intro unowned
      have missed : ∀ name ∈ names, ¬ m.Covers name := by
        intro name asked covers
        have owner := unowned name asked
        rw [owner?_of_covers covers] at owner
        cases owner
      refine ⟨missed, ?_⟩
      rintro name ⟨asked, -⟩
      have owner := unowned name asked
      rwa [owner?_of_not_covers (missed name asked), Option.map_eq_none_iff] at owner
    · rintro ⟨missed, unowned⟩ name asked
      rw [owner?_of_not_covers (missed name asked), Option.map_eq_none_iff]
      exact unowned name ⟨asked, missed name asked⟩

theorem presentsAll_iff {m : Matcher} {below : List String} (asked : below ≠ []) :
    m.presentsAll below = true ↔ ∀ name ∈ below, name ∈ m.present := by
  unfold Matcher.presentsAll
  simp only [Bool.and_eq_true, List.all_eq_true, List.contains_iff_mem]
  constructor
  · rintro ⟨-, all⟩
    exact all
  · intro all
    refine ⟨?_, all⟩
    -- A matcher that holds something of what is asked for holds something.
    obtain ⟨name, member⟩ := List.exists_mem_of_ne_nil below asked
    have holds := List.ne_nil_of_mem (all name member)
    simpa using holds

theorem filterMap_included? (strips : Bool) (shares : List (Matcher × List String)) :
    ((shares.filter fun share => !share.2.isEmpty).map claimOf).filterMap
        (fun claim => (selectedOf claim).included? strips) =
      shares.filterMap fun share => inclusion? strips share.1 share.2 := by
  rw [List.filterMap_map, List.filterMap_filter]
  apply List.filterMap_congr
  rintro ⟨m, own⟩ -
  by_cases asked : own = []
  · simp [inclusion?, asked]
  · simp only [Function.comp_apply, claimOf, included?_selectedOf, inclusion?, m.subNames_matchName, asked,
      List.isEmpty_eq_false_iff.2 asked, Bool.not_false, if_true, false_or]
    apply if_congr _ rfl rfl
    by_cases below : own.filterMap m.rest? = []
    · simp [below]
    · simp only [ne_eq, below, not_false_eq_true, ← presentsAll_iff below, true_and,
        Bool.and_eq_true, List.isEmpty_eq_false_iff.2 below, Bool.not_false, and_true]

theorem map_exclude (shares : List (Matcher × List String)) :
    ((shares.filter fun share => share.2.isEmpty).map claimOf).map
        (fun claim => PlanEntry.exclude claim.1) =
      shares.filterMap fun share => exclusion? share.1 share.2 := by
  rw [List.map_map, ← List.filterMap_eq_map, List.filterMap_filter]
  apply List.filterMap_congr
  rintro ⟨m, own⟩ -
  by_cases asked : own = []
  · simp [exclusion?, claimOf, asked]
  · simp [exclusion?, asked]

theorem resolveNamed_eq (matchers : List Matcher) (names : List String) (trim : Bool) :
    resolveNamed matchers names trim =
      if Trims matchers names trim ∧ Unowned matchers names then halt
      else ofPlan (ownedPlan matchers names trim) := by
  have selected := @filter_claimOf matchers names (! ·)
  have missing := @filter_claimOf matchers names (·)
  have strips : (trim && !(names.filter fun name => owner? matchers name = none).contains wildcard) =
      decide (Trims matchers names trim) := by
    rw [Bool.eq_iff_iff]
    simp [Trims, List.mem_filter]
  have unowned : ((owned matchers names).filter fun share => !share.2.isEmpty) = [] ↔
      Unowned matchers names := by
    rw [unowned_iff, List.filter_eq_nil_iff]
    simp
  rw [resolveNamed_eq_claims, claims_eq_owned]
  simp only [selected, missing, strips, filterMap_included?, map_exclude]
  apply if_congr
  · rw [Bool.and_eq_true, decide_eq_true_iff, List.isEmpty_iff, List.map_eq_nil_iff, unowned]
  · rfl
  · rfl

/-- Whether a matcher is the first one without a name. -/
def IsDefault (matchers : List Matcher) (m : Matcher) : Prop :=
  m.name = none ∧
    ∃ before after, matchers = before ++ m :: after ∧ ∀ other ∈ before, other.name ≠ none

def AllNamed (matchers : List Matcher) : Prop :=
  matchers ≠ [] ∧ ∀ m ∈ matchers, m.name ≠ none

theorem isDefault_iff {m : Matcher} :
    IsDefault matchers m ↔ matchers.find? Matcher.isUnnamed = some m := by
  rw [List.find?_eq_some_iff_append]
  simp [IsDefault, Matcher.isUnnamed, Option.isSome_iff_ne_none]

theorem find?_of_allNamed (named : AllNamed matchers) :
    matchers.find? Matcher.isUnnamed = none := by
  rw [List.find?_eq_none]
  intro m member unnamed
  exact named.2 m member (Option.isNone_iff_eq_none.1 unnamed)

/-- The rules by which names resolve. -/
inductive Means (matchers : List Matcher) : List String → Bool → Resolution → Prop where
  | unruled {names : List String} {trim : Bool} (unruled : matchers = []) :
      Means matchers names trim halt
  | unasked {m : Matcher} {trim : Bool} (isDefault : IsDefault matchers m) :
      Means matchers [] trim verbatim
  | default {m : Matcher} {names : List String} {trim : Bool} (isDefault : IsDefault matchers m)
      (asked : names ≠ []) : Means matchers names trim (plan [.select m names])
  | single {m : Matcher} {trim : Bool} (named : m.name ≠ none) (only : matchers = [m]) :
      Means matchers [] trim verbatim
  -- Without names the first of several matchers is asked for, and the others are stripped.
  | first {m : Matcher} {others : List Matcher} {own : String} {trim : Bool} {r : Resolution}
      (named : AllNamed matchers) (several : matchers = m :: others ∧ others ≠ [])
      (first : m.name = some own) (means : Means matchers [own] true r) :
      Means matchers [] trim r
  | stopped {names : List String} {trim : Bool} (named : AllNamed matchers) (asked : names ≠ [])
      (trims : Trims matchers names trim) (unowned : Unowned matchers names) :
      Means matchers names trim halt
  -- Blocks that already hold what is asked for and are not to be stripped need no entry.
  | satisfied {names : List String} {trim : Bool} (named : AllNamed matchers) (asked : names ≠ [])
      (goes : ¬ (Trims matchers names trim ∧ Unowned matchers names))
      (nothing : ownedPlan matchers names trim = []) : Means matchers names trim verbatim
  | planned {names : List String} {trim : Bool} (named : AllNamed matchers) (asked : names ≠ [])
      (goes : ¬ (Trims matchers names trim ∧ Unowned matchers names))
      (something : ownedPlan matchers names trim ≠ []) :
      Means matchers names trim (plan (ownedPlan matchers names trim))

theorem resolve_of_isDefault {m : Matcher} (isDefault : IsDefault matchers m) :
    resolve matchers names trim = if names.isEmpty then verbatim else plan [.select m names] := by
  have found := isDefault_iff.1 isDefault
  obtain ⟨-, before, after, parts, -⟩ := isDefault
  cases matchers with
  | nil => cases found
  | cons => simp only [resolve, found]; rfl

theorem resolve_of_allNamed (named : AllNamed matchers) (asked : names ≠ []) :
    resolve matchers names trim = resolveNamed matchers names trim := by
  have found := find?_of_allNamed named
  cases matchers with
  | nil => exact absurd rfl named.1
  | cons => simp [resolve, found, List.isEmpty_eq_false_iff.2 asked]

theorem resolve_nil_of_allNamed {m : Matcher} {others : List Matcher}
    (named : AllNamed (m :: others)) {own : String} (first : m.name = some own) :
    resolve (m :: others) [] trim =
      if others.isEmpty then verbatim else resolve (m :: others) [own] true := by
  have found := find?_of_allNamed named
  rw [resolve_of_allNamed named (List.cons_ne_nil own [])]
  simp [resolve, found, first]

theorem ofPlan_of_ne_nil {entries : List PlanEntry} (something : entries ≠ []) :
    ofPlan entries = plan entries :=
  if_neg (by simpa using something)

theorem means_resolve_of_allNamed (named : AllNamed matchers) (asked : names ≠ []) :
    Means matchers names trim (resolve matchers names trim) := by
  rw [resolve_of_allNamed named asked, resolveNamed_eq]
  split
  next stops => exact .stopped named asked stops.1 stops.2
  next goes =>
    by_cases nothing : ownedPlan matchers names trim = []
    · rw [nothing]
      exact .satisfied named asked goes nothing
    · rw [ofPlan_of_ne_nil nothing]
      exact .planned named asked goes nothing

theorem means_resolve (matchers : List Matcher) (names : List String) (trim : Bool) :
    Means matchers names trim (resolve matchers names trim) := by
  cases found : matchers.find? Matcher.isUnnamed with
  | some m =>
    have isDefault := isDefault_iff.2 found
    rw [resolve_of_isDefault isDefault]
    cases names with
    | nil => exact .unasked isDefault
    | cons name names => exact .default isDefault (List.cons_ne_nil name names)
  | none =>
    cases matchers with
    | nil => exact .unruled rfl
    | cons m others =>
      have named : AllNamed (m :: others) := by
        refine ⟨List.cons_ne_nil m others, ?_⟩
        intro other member unnamed
        exact List.find?_eq_none.1 found other member (Option.isNone_iff_eq_none.2 unnamed)
      cases names with
      | cons name names => exact means_resolve_of_allNamed named (List.cons_ne_nil name names)
      | nil =>
        obtain ⟨own, first⟩ := Option.ne_none_iff_exists'.1 (named.2 m List.mem_cons_self)
        rw [resolve_nil_of_allNamed named first]
        cases others with
        | nil => exact .single (named.2 m List.mem_cons_self) rfl
        | cons second others =>
          exact .first named ⟨rfl, List.cons_ne_nil second others⟩ first
            (means_resolve_of_allNamed named (List.cons_ne_nil own []))

theorem resolve_eq_iff_means (matchers : List Matcher) (names : List String) (trim : Bool)
    (r : Resolution) : resolve matchers names trim = r ↔ Means matchers names trim r := by
  constructor
  · rintro rfl
    exact means_resolve matchers names trim
  · intro means
    induction means with
    | unruled unruled => subst unruled; rfl
    | unasked isDefault => exact resolve_of_isDefault isDefault
    | default isDefault asked =>
      rw [resolve_of_isDefault isDefault, List.isEmpty_eq_false_iff.2 asked]
      rfl
    | single named only =>
      subst only
      obtain ⟨own, first⟩ := Option.ne_none_iff_exists'.1 named
      exact resolve_nil_of_allNamed ⟨by simp, by simpa using named⟩ first
    | first named several first means ih =>
      obtain ⟨rfl, others⟩ := several
      rw [resolve_nil_of_allNamed named first, List.isEmpty_eq_false_iff.2 others]
      exact ih
    | stopped named asked trims unowned =>
      rw [resolve_of_allNamed named asked, resolveNamed_eq, if_pos ⟨trims, unowned⟩]
    | satisfied named asked goes nothing =>
      rw [resolve_of_allNamed named asked, resolveNamed_eq, if_neg goes, nothing]
      rfl
    | planned named asked goes something =>
      rw [resolve_of_allNamed named asked, resolveNamed_eq, if_neg goes,
        ofPlan_of_ne_nil something]

end Resolution

end Transclusion
