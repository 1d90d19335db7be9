import Mathlib
import Transclusion.Message.Headers

/-!
# Values of one name

Headers are looked at one name at a time. What is done to a list of headers as a whole (filtering it,
putting its names into lower case, adding to it) shows in the values of each single name.

## Main results

`getAll_ofList_lower`: the case of the names does not matter.
`getAll_filter`, `getAll_filter_dropped`: a filter on names keeps or drops all values of a name.
-/

namespace Transclusion

namespace Text

theorem lower_lower (s : String) : lower (lower s) = lower s := by
  rw [← String.toList_inj, toList_lower, toList_lower, List.map_map]
  apply List.map_congr_left
  intro c _
  exact Char.toLower_toLower_eq_toLower c

theorem sameIgnoringCase_iff {a b : String} :
    sameIgnoringCase a b = true ↔ lower a = lower b := by
  rw [sameIgnoringCase, beq_iff_eq]

theorem sameIgnoringCase_lower (a b : String) :
    sameIgnoringCase (lower a) b = sameIgnoringCase a b := by
  rw [sameIgnoringCase, lower_lower, sameIgnoringCase]

end Text

namespace Headers

variable {name : String} {entries : List (String × String)}

theorem getAll_ofList_append (xs ys : List (String × String)) (name : String) :
    (ofList (xs ++ ys)).getAll name = (ofList xs).getAll name ++ (ofList ys).getAll name := by
  simp [getAll, ofList]

/-- Names in lower case carry the same values. -/
theorem getAll_ofList_lower (entries : List (String × String)) (name : String) :
    (ofList (entries.map fun entry => (Text.lower entry.1, entry.2))).getAll name =
      (ofList entries).getAll name := by
  have named : (isNamed name ∘ fun entry : String × String => (Text.lower entry.1, entry.2)) =
      isNamed name := by
    funext entry
    exact Text.sameIgnoringCase_lower entry.1 name
  simp [getAll, ofList, List.filter_map, named, Function.comp_def]

/-- A filter that keeps no entry of a name leaves it without values. -/
theorem getAll_filter_dropped {p : String × String → Bool}
    (dropped : ∀ entry, isNamed name entry = true → p entry = false) :
    (ofList (entries.filter p)).getAll name = [] := by
  have neither : ∀ entry, (isNamed name entry && p entry) = false := by
    intro entry
    cases named : isNamed name entry with
    | false => rfl
    | true => rw [dropped entry named, Bool.and_false]
  simp [getAll, ofList, List.filter_filter, neither]

theorem contains_eq_false_iff {h : Headers} : h.contains name = false ↔ h.getAll name = [] := by
  rw [contains, get?_eq_head?_getAll, Option.isSome_eq_false_iff, Option.isNone_iff_eq_none,
    List.head?_eq_none_iff]

end Headers

end Transclusion
