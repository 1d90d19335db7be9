import Mathlib.Data.List.Basic
import Transclusion.Plan

/-!
# Claims

Names are offered to matchers one after the other, and what a matcher takes is gone for the later
ones. So no two entries of a selection ever share a name, although matchers may: whatever the second
one answers for, the first one has taken. What is selected can be told for each matcher on its own.

## Main results

`resolveNamed_eq_claims`: the resolution of names by what each matcher claims of them.
-/

namespace Transclusion

namespace Resolution

/-- What each matcher claims of the names, and the names that nobody claims. A name goes to the
first matcher that answers for it. -/
def claims : List Matcher → List String → List (Matcher × List NameMatch) × List String
  | [], names => ([], names)
  | m :: ms, names =>
    let (later, left) := claims ms (names.filter fun n => (m.matchName n).isNone)
    ((m, names.filterMap m.matchName) :: later, left)

/-- The names handed on to the content of a block. -/
def subNames (hits : List NameMatch) : List String :=
  hits.filterMap fun hit => match hit with
    | .exact => none
    | .child rest => some rest

def selectedOf (claim : Matcher × List NameMatch) : Selected :=
  ⟨claim.1.name.getD "", claim.1, subNames claim.2⟩

theorem included?_selectedOf (trim : Bool) (m : Matcher) (hits : List NameMatch) :
    (selectedOf (m, hits)).included? trim =
      if trim && !(subNames hits).isEmpty && m.presentsAll (subNames hits) then none
      else some (.select m (subNames hits)) := rfl

theorem claims_nil (matchers : List Matcher) :
    claims matchers [] = (matchers.map fun m => (m, []), []) := by
  induction matchers with
  | nil => rfl
  | cons m ms ih => simp [claims, ih]

end Resolution

theorem Matcher.matchName_eq {m other : Matcher} (same : m.name = other.name) :
    m.matchName = other.matchName := by
  funext name
  rw [matchName, matchName, same]

namespace Selected

variable {m : Matcher} {selected : List Selected}

theorem add_subNames (s : Selected) (hit : NameMatch) :
    s.add hit = { s with subNames := s.subNames ++ Resolution.subNames [hit] } := by
  cases hit with
  | exact => simp [add, Resolution.subNames]
  | child rest => rfl

/-- Entries of other names stay as they are. -/
theorem note_append (fresh : ∀ s ∈ selected, s.name ≠ m.name.getD "") (rest : List Selected)
    (hit : NameMatch) : note m (selected ++ rest) hit = selected ++ note m rest hit := by
  induction selected with
  | nil => rfl
  | cons s selected ih =>
    have other := fresh s List.mem_cons_self
    rw [List.cons_append, note, if_neg other, ih]
    · rfl
    · intro s member
      exact fresh s (List.mem_cons_of_mem _ member)

theorem foldl_note_append (fresh : ∀ s ∈ selected, s.name ≠ m.name.getD "") (rest : List Selected)
    (hits : List NameMatch) :
    hits.foldl (note m) (selected ++ rest) = selected ++ hits.foldl (note m) rest := by
  induction hits generalizing rest with
  | nil => rfl
  | cons hit hits ih => rw [List.foldl_cons, List.foldl_cons, note_append fresh, ih]

theorem foldl_note_entry (m : Matcher) (names : List String) (hits : List NameMatch) :
    hits.foldl (note m) [⟨m.name.getD "", m, names⟩] =
      [⟨m.name.getD "", m, names ++ Resolution.subNames hits⟩] := by
  induction hits generalizing names with
  | nil => simp [Resolution.subNames]
  | cons hit hits ih =>
    have joined : Resolution.subNames (hit :: hits) =
        Resolution.subNames [hit] ++ Resolution.subNames hits :=
      List.filterMap_append (l := [hit])
    rw [List.foldl_cons, note, if_pos rfl, add_subNames, ih, joined, List.append_assoc]

/-- All that a matcher takes goes into one entry. -/
theorem foldl_note (fresh : ∀ s ∈ selected, s.name ≠ m.name.getD "") {hits : List NameMatch}
    (taken : hits ≠ []) :
    hits.foldl (note m) selected = selected ++ [Resolution.selectedOf (m, hits)] := by
  -- The first hit makes an entry, as if there had been an empty one.
  have entered : hits.foldl (note m) [] = hits.foldl (note m) [⟨m.name.getD "", m, []⟩] := by
    cases hits with
    | nil => exact absurd rfl taken
    | cons hit hits => rw [List.foldl_cons, List.foldl_cons, note, note, if_pos rfl]
  have apart := foldl_note_append fresh [] hits
  rw [List.append_nil, entered, foldl_note_entry, List.nil_append] at apart
  exact apart

end Selected

namespace Selection

open Resolution

/-- Whether no outstanding name is one that a selected matcher would have taken. -/
def Apart (s : Selection) : Prop :=
  ∀ entry ∈ s.selected, ∀ m : Matcher, m.name = some entry.name →
    ∀ name ∈ s.outstanding, m.matchName name = none

variable {s : Selection}

/-- A matcher that takes names has a name of its own among those selected so far. -/
theorem Apart.fresh (apart : s.Apart) {m : Matcher}
    (taken : s.outstanding.filterMap m.matchName ≠ []) :
    ∀ entry ∈ s.selected, entry.name ≠ m.name.getD "" := by
  intro entry member same
  apply taken
  rw [List.filterMap_eq_nil_iff]
  cases named : m.name with
  | none =>
    intro name _
    rw [Matcher.matchName, named]
  | some own =>
    rw [named, Option.getD_some] at same
    exact apart entry member m (same ▸ named)

theorem offer_eq (apart : s.Apart) (m : Matcher) :
    s.offer m =
      let hits := s.outstanding.filterMap m.matchName
      { selected := s.selected ++ if hits.isEmpty then [] else [selectedOf (m, hits)]
        missing := s.missing ++ if hits.isEmpty then [m] else []
        outstanding := s.outstanding.filter fun n => (m.matchName n).isNone } := by
  unfold offer
  by_cases passed : s.outstanding.filterMap m.matchName = []
  · simp only [passed, List.foldl_nil, List.isEmpty_nil, if_true, List.append_nil]
  · simp only [Selected.foldl_note (apart.fresh passed) passed,
      List.isEmpty_eq_false_iff.2 passed, Bool.false_eq_true, if_false, List.append_nil]

/-- What a matcher takes is no longer outstanding, so it cannot be taken under the same name again. -/
theorem Apart.offer (apart : s.Apart) (m : Matcher) : (s.offer m).Apart := by
  rw [offer_eq apart]
  intro entry member other named name left
  obtain ⟨outstanding, passed⟩ := List.mem_filter.1 left
  rcases List.mem_append.1 member with before | added
  · exact apart entry before other named name outstanding
  · split at added
    · cases added
    · next taken =>
      obtain rfl := List.mem_singleton.1 added
      have same : other.name = m.name := by
        rw [named, selectedOf]
        cases own : m.name with
        | none =>
          -- A matcher without a name takes nothing.
          simp [Matcher.matchName, own] at taken
        | some _ => rfl
      rw [Matcher.matchName_eq same]
      exact Option.isNone_iff_eq_none.1 passed

/-- The selection after each of the matchers has claimed its names. -/
def claim (s : Selection) (matchers : List Matcher) : Selection :=
  let (claimed, left) := claims matchers s.outstanding
  { selected := s.selected ++ (claimed.filter fun claim => !claim.2.isEmpty).map selectedOf
    missing := s.missing ++ (claimed.filter fun claim => claim.2.isEmpty).map (·.1)
    outstanding := left }

theorem claim_nil (exhausted : s.outstanding = []) (matchers : List Matcher) :
    s.claim matchers = { s with missing := s.missing ++ matchers } := by
  simp [claim, exhausted, claims_nil, List.filter_map, Function.comp_def]

theorem claim_cons (apart : s.Apart) (m : Matcher) (ms : List Matcher) :
    s.claim (m :: ms) = (s.offer m).claim ms := by
  rw [offer_eq apart, claim, claims]
  by_cases taken : s.outstanding.filterMap m.matchName = []
  · simp [claim, taken]
  · simp [claim, List.isEmpty_eq_false_iff.2 taken]

/-- Names that are offered to matchers one after the other are claimed by them. To stop where no
name is left makes no difference. -/
theorem run_eq_claim (apart : s.Apart) (matchers : List Matcher) :
    s.run matchers = s.claim matchers := by
  induction matchers generalizing s with
  | nil => simp [run, claim, claims]
  | cons m ms ih =>
    rw [claim_cons apart, run]
    split
    next exhausted => rw [claim_nil (List.isEmpty_iff.1 exhausted)]
    next => exact ih (apart.offer m)

end Selection

/-- What names resolve to can be told from what each matcher claims. -/
theorem Resolution.resolveNamed_eq_claims (matchers : List Matcher) (names : List String)
    (trim : Bool) : resolveNamed matchers names trim =
      let (claimed, left) := claims matchers names
      let trim := trim && !left.contains wildcard
      let selected := claimed.filter fun claim => !claim.2.isEmpty
      let missing := claimed.filter fun claim => claim.2.isEmpty
      if trim && selected.isEmpty then halt
      else
        ofPlan (selected.filterMap (fun claim => (selectedOf claim).included? trim) ++
          if trim then missing.map fun claim => .exclude claim.1 else []) := by
  have apart : Selection.Apart ⟨[], [], names⟩ := by
    intro entry member
    cases member
  unfold resolveNamed
  rw [Selection.run_eq_claim apart]
  simp only [Selection.claim, List.nil_append, List.filterMap_map, List.map_map, List.isEmpty_map,
    Function.comp_def]

end Transclusion
