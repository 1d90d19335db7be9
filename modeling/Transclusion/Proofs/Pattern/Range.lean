import Transclusion.Proofs.Pattern.Threads

/-!
# The range of a search

A search remembers positions of the text it runs over. Threads share nothing but their slots, so it
is enough that no position lies behind the place where the search has got to.

## Main results

`findIn_within`: a match that is found lies inside the text that was searched.
-/

namespace Transclusion.Pattern

/-- Whether no remembered position lies behind `pos`. -/
def Slots.Within (pos : Nat) (slots : Slots) : Prop :=
  ∀ slot place : Nat, slots[slot]? = some (some place) → place ≤ pos

namespace Slots

theorem Within.mono {pos later : Nat} {slots : Slots} (within : slots.Within pos)
    (le : pos ≤ later) : slots.Within later :=
  fun slot place remembered => Nat.le_trans (within slot place remembered) le

theorem within_fresh (count pos : Nat) : Slots.Within pos (Array.replicate count none) := by
  intro slot place remembered
  rw [Array.getElem?_replicate] at remembered
  split at remembered
  · cases remembered
  · cases remembered

theorem Within.save {pos : Nat} {slots : Slots} (within : slots.Within pos) (slot : Nat) :
    Slots.Within pos (slots.setIfInBounds slot (some pos)) := by
  intro other place remembered
  rw [Array.getElem?_setIfInBounds] at remembered
  split at remembered
  · split at remembered
    · cases remembered
      exact Nat.le_refl pos
    · cases remembered
  · exact within other place remembered

end Slots

namespace Program

theorem carried_within (p : Program) (before : Option Char) :
    p.Carried before fun done _ t => t.slots.Within done.length := by
  constructor
  · intro done rest t within s member
    obtain ⟨next, -, rfl⟩ := List.mem_map.1 member
    dsimp only [saved]
    split
    · exact within.save _
    · exact within
  · intro done rest c t set next within _ _
    refine Slots.Within.mono within ?_
    simp

theorem search_within (p : Program) (before : Option Char) (cs : List Char) {slots : Slots}
    (found : p.search before cs = some slots) : slots.Within cs.length := by
  refine (p.carried_within before).search ?_ ?_ slots found
  · exact fun done rest => Slots.within_fresh p.slots done.length
  · rintro done rest t rfl within _
    exact within.mono (by simp)

end Program

/-- A match that is found lies inside the text that was searched. -/
theorem findIn_within (p : Pattern) (before : Option Char) (cs : List Char) {start size : Nat}
    {groups : List (Option String)} (found : p.findIn before cs = some (start, size, groups)) :
    start + size ≤ cs.length := by
  unfold findIn at found
  split at found
  next => cases found
  next slots searched =>
    have within := p.program.search_within before cs searched
    obtain ⟨⟨a, b⟩, span, equal⟩ := Option.map_eq_some_iff.1 found
    cases equal
    unfold span? at span
    split at span
    next first last =>
      cases span
      have := within _ _ first
      have := within _ _ last
      omega
    next => cases span

end Transclusion.Pattern
