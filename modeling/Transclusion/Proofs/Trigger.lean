import Mathlib.Data.List.Basic
import Transclusion.Trigger

/-!
# What a trigger header lists

A value of the trigger header puts entries between commas. An entry is a name, which may have blanks
around it and attributes after it; what an entry without a name has besides does not matter.

## Main results

`requestedNames_of_lists`: the requested names are the ones that the header lists.
`lists_intercalate`: there is a header that lists given names.
-/

namespace Transclusion

namespace RequestedName

/-- Whether a text can be listed as it is: it is not blank, has no blanks at its ends, and has none
of the separators in it. -/
structure IsName (name : String) : Prop where
  nonempty : name ≠ ""
  trimmed : Text.trim name = name
  noComma : ',' ∉ name.toList
  noSemicolon : ';' ∉ name.toList

/-- Whether a text may follow the name of an entry. -/
def IsTail (attributes : List Char) : Prop :=
  ',' ∉ attributes ∧ ∀ c, attributes.head? = some c → c = ';'

/-- Whether a text is an entry that requests a name, or one that requests nothing. -/
inductive Requests : List Char → Option String → Prop where
  | name {before after tail : List Char} {name : String}
      (blank : ∀ c ∈ before ++ after, Text.isBlank c = true) (isTail : IsTail tail) :
      Requests (before ++ name.toList ++ after ++ tail) (some name)
  | nothing {blanks tail : List Char} (blank : ∀ c ∈ blanks, Text.isBlank c = true)
      (isTail : IsTail tail) : Requests (blanks ++ tail) none

/-- Whether a header value lists names: its entries request these and no others. -/
def Lists (value : String) (names : List String) : Prop :=
  ∃ entries : List (List Char × Option String), (∀ entry ∈ entries, Requests entry.1 entry.2) ∧
    value.toList = List.intercalate [','] (entries.map (·.1)) ∧ names = entries.filterMap (·.2)

/-- Any names can be listed with nothing but commas between them. -/
theorem lists_intercalate (names : List String) : Lists (String.intercalate "," names) names := by
  refine ⟨names.map fun name => (name.toList, some name), ?_, ?_, ?_⟩
  · rintro _ listed
    obtain ⟨name, -, rfl⟩ := List.mem_map.1 listed
    have requests := @Requests.name [] [] [] name (by simp) ⟨by simp, by simp⟩
    simpa using requests
  · rw [String.toList_intercalate, List.map_map]
    rfl
  · simp [List.filterMap_map]

theorem not_mem_of_blank {blanks : List Char} (blank : ∀ c ∈ blanks, Text.isBlank c = true)
    {sign : Char} (visible : Text.isBlank sign = false) : sign ∉ blanks := by
  intro member
  rw [blank sign member] at visible
  cases visible

theorem name?_of_tail {front tail : List Char} (free : ';' ∉ front) (isTail : IsTail tail) :
    (parse? (String.ofList (front ++ tail))).map (·.name) =
      if Text.trim (String.ofList front) = "" then none
      else some (Text.trim (String.ofList front)) := by
  have pieces : ∃ attributes, Text.splitOn ';' (String.ofList (front ++ tail)) =
      String.ofList front :: attributes := by
    unfold Text.splitOn
    rw [String.toList_ofList]
    cases tail with
    | nil =>
      rw [List.append_nil, Text.splitChars_of_not_mem free]
      exact ⟨[], rfl⟩
    | cons c rest =>
      obtain rfl := isTail.2 c rfl
      rw [Text.splitChars_append_cons free]
      exact ⟨_, rfl⟩
  obtain ⟨attributes, split⟩ := pieces
  unfold parse?
  rw [split]
  dsimp only
  split <;> rfl

theorem trim_between {before after : List Char} {name : String} (trimmed : Text.trim name = name)
    (blank : ∀ c ∈ before ++ after, Text.isBlank c = true) :
    Text.trim (String.ofList (before ++ name.toList ++ after)) = name := by
  have blanks := List.forall_mem_append.1 blank
  rw [← String.toList_inj, Text.toList_trim, String.toList_ofList,
    Text.trimChars_append_right blanks.2, Text.trimChars_append_left blanks.1, ← Text.toList_trim,
    trimmed]

theorem name?_of_requests {entry : List Char} {requested : Option String}
    (requests : Requests entry requested) (isName : ∀ name, requested = some name → IsName name) :
    (parse? (String.ofList entry)).map (·.name) = requested := by
  cases requests with
  | @nothing blanks tail blank isTail =>
    have trimmed := @trim_between blanks [] "" rfl (by simpa using blank)
    rw [String.toList_empty, List.append_nil, List.append_nil] at trimmed
    rw [name?_of_tail (not_mem_of_blank blank (by decide)) isTail, trimmed, if_pos rfl]
  | @name before after tail name blank isTail =>
    have proper := isName name rfl
    have blanks := List.forall_mem_append.1 blank
    have free : ';' ∉ before ++ name.toList ++ after := by
      simp only [List.mem_append, not_or]
      exact ⟨⟨not_mem_of_blank blanks.1 (by decide), proper.noSemicolon⟩,
        not_mem_of_blank blanks.2 (by decide)⟩
    rw [name?_of_tail free isTail, trim_between proper.trimmed blank, if_neg proper.nonempty]

theorem noComma_of_requests {entry : List Char} {requested : Option String}
    (requests : Requests entry requested) (isName : ∀ name, requested = some name → IsName name) :
    ',' ∉ entry := by
  cases requests with
  | nothing blank isTail =>
    rw [List.mem_append, not_or]
    exact ⟨not_mem_of_blank blank (by decide), isTail.1⟩
  | @name before after tail name blank isTail =>
    have blanks := List.forall_mem_append.1 blank
    simp only [List.mem_append, not_or]
    exact ⟨⟨⟨not_mem_of_blank blanks.1 (by decide), (isName name rfl).noComma⟩,
      not_mem_of_blank blanks.2 (by decide)⟩, isTail.1⟩

/-- The names that a header lists, each once, are the ones that are requested by it. -/
theorem requestedNames_of_lists {header value trigger : String} {names : List String}
    (named : Text.sameIgnoringCase header trigger = true) (lists : Lists value names)
    (isName : ∀ name ∈ names, IsName name) (asked : names ≠ []) (once : names.Nodup) :
    requestedNames (.ofList [(header, value)]) trigger = names := by
  obtain ⟨entries, requests, joined, rfl⟩ := lists
  have proper : ∀ entry ∈ entries, ∀ name, entry.2 = some name → IsName name :=
    fun entry member name requested => isName name (List.mem_filterMap.2 ⟨entry, member, requested⟩)
  have nonempty : entries.map (·.1) ≠ [] := by
    intro empty
    rw [List.map_eq_nil_iff] at empty
    subst empty
    exact asked rfl
  have noComma : ∀ entry ∈ entries.map (·.1), ',' ∉ entry := by
    rintro _ listed
    obtain ⟨entry, member, rfl⟩ := List.mem_map.1 listed
    exact noComma_of_requests (requests entry member) (proper entry member)
  have values : (Headers.ofList [(header, value)]).getAll trigger = [value] := by
    simp [Headers.getAll, Headers.ofList, Headers.isNamed, named]
  have pieces : Text.splitOn ',' value = (entries.map (·.1)).map String.ofList := by
    rw [Text.splitOn, joined, Text.splitChars_intercalate nonempty noComma]
  have names : (decode (.ofList [(header, value)]) trigger).map (·.name) =
      entries.filterMap (·.2) := by
    rw [decode, values, List.flatMap_singleton, pieces, List.map_map, List.filterMap_map,
      List.map_filterMap]
    apply List.filterMap_congr
    intro entry member
    exact name?_of_requests (requests entry member) (proper entry member)
  rw [requestedNames, names]
  apply distinctFrom_eq_self once
  simp

end RequestedName

end Transclusion
