import Mathlib.Data.List.TakeWhile
import Transclusion.Text.Split

/-!
# Pieces of texts

A separator cuts a text at the first place where it stands, and what stands before has no separator
in it. Trimming takes blanks away from the two ends and nothing else, so in a text with a visible
sign each end can be trimmed apart from the other.

## Main results

`cutChars_append`, `exists_splitChars`: what stands before the first separator.
`trimChars_append_cons`: trimming on both sides of a visible sign.
-/

namespace Transclusion.Text

variable {sep c : Char} {cs : List Char}

/-! ### Separators -/

theorem eq_of_cutChars {sep : Char} {cs before after : List Char}
    (found : cutChars sep cs = some (before, after)) :
    sep ∉ before ∧ cs = before ++ sep :: after := by
  induction cs generalizing before with
  | nil => cases found
  | cons c cs ih =>
    rw [cutChars] at found
    split at found
    next here =>
      cases found
      exact ⟨List.not_mem_nil, by rw [here]; rfl⟩
    next other =>
      obtain ⟨⟨before', after'⟩, found', parts⟩ := Option.map_eq_some_iff.1 found
      cases parts
      obtain ⟨free, rfl⟩ := ih found'
      refine ⟨?_, rfl⟩
      rw [List.mem_cons]
      rintro (here | later)
      · exact other here.symm
      · exact free later

theorem cutChars_append {sep : Char} {before : List Char} (free : sep ∉ before)
    (after : List Char) : cutChars sep (before ++ sep :: after) = some (before, after) := by
  induction before with
  | nil => simp [cutChars]
  | cons c before ih =>
    rw [List.mem_cons, not_or] at free
    rw [List.cons_append, cutChars, if_neg (Ne.symm free.1), ih free.2]
    rfl

theorem cutChars_of_not_mem (free : sep ∉ cs) : cutChars sep cs = none := by
  rw [Option.eq_none_iff_forall_ne_some]
  rintro ⟨before, after⟩ found
  obtain ⟨-, rfl⟩ := eq_of_cutChars found
  simp at free

theorem exists_splitChars (sep : Char) (cs : List Char) :
    ∃ pieces, splitChars sep cs = cs.takeWhile (· != sep) :: pieces := by
  induction cs with
  | nil => exact ⟨[], rfl⟩
  | cons c cs ih =>
    obtain ⟨pieces, split⟩ := ih
    by_cases same : c = sep
    · exact ⟨splitChars sep cs, by simp [splitChars, same]⟩
    · exact ⟨pieces, by simp [splitChars, same, split]⟩

theorem of_mem_intercalate {pieces : List (List Char)} (member : c ∈ List.intercalate [sep] pieces) :
    c = sep ∨ ∃ piece ∈ pieces, c ∈ piece := by
  induction pieces with
  | nil => cases member
  | cons piece pieces ih =>
    cases pieces with
    | nil => exact .inr ⟨piece, List.mem_cons_self, by simpa using member⟩
    | cons next pieces =>
      rw [List.intercalate_cons_cons, List.append_assoc, List.mem_append, List.mem_append,
        List.mem_singleton] at member
      rcases member with here | here | later
      · exact .inr ⟨piece, List.mem_cons_self, here⟩
      · exact .inl here
      · rcases ih later with here | ⟨piece', member', here⟩
        · exact .inl here
        · exact .inr ⟨piece', List.mem_cons_of_mem _ member', here⟩

/-! ### Blanks -/

theorem mem_dropWhile_isBlank {c : Char} (visible : isBlank c = false) {cs : List Char} :
    c ∈ cs.dropWhile isBlank ↔ c ∈ cs := by
  constructor
  · exact fun member => (List.dropWhile_suffix isBlank).subset member
  · intro member
    rw [← List.takeWhile_append_dropWhile (p := isBlank) (l := cs), List.mem_append] at member
    rcases member with blank | rest
    · have := List.mem_takeWhile_imp blank
      simp_all
    · exact rest

theorem mem_trimChars {c : Char} (visible : isBlank c = false) {cs : List Char} :
    c ∈ trimChars cs ↔ c ∈ cs := by
  simp [trimChars, dropEndWhile, mem_dropWhile_isBlank visible]

theorem exists_dropEndWhile (cs : List Char) : ∃ blanks,
    (∀ c ∈ blanks, isBlank c = true) ∧ cs = dropEndWhile isBlank cs ++ blanks := by
  refine ⟨(cs.reverse.takeWhile isBlank).reverse, fun c member => ?_, ?_⟩
  · exact List.mem_takeWhile_imp (List.mem_reverse.1 member)
  · rw [dropEndWhile, ← List.reverse_append, List.takeWhile_append_dropWhile, List.reverse_reverse]

theorem trimChars_dropWhile (cs : List Char) : trimChars (cs.dropWhile isBlank) = trimChars cs := by
  have front : ∀ c ∈ cs.takeWhile isBlank, isBlank c = true := fun _ => List.mem_takeWhile_imp
  rw [← trimChars_append_left front, List.takeWhile_append_dropWhile]

theorem trimChars_dropEndWhile (cs : List Char) :
    trimChars (dropEndWhile isBlank cs) = trimChars cs := by
  obtain ⟨blanks, blank, whole⟩ := exists_dropEndWhile cs
  rw [← trimChars_append_right blank, ← whole]

/-- A visible sign keeps apart what is trimmed before it and after it. -/
theorem trimChars_append_cons (visible : isBlank c = false) (front back : List Char) :
    trimChars (front ++ c :: back) =
      front.dropWhile isBlank ++ c :: dropEndWhile isBlank back := by
  have stops : ∀ rest : List Char, (c :: rest).dropWhile isBlank = c :: rest := by
    intro rest
    rw [List.dropWhile_cons_of_neg (by simp [visible])]
  have started : (front ++ c :: back).dropWhile isBlank = front.dropWhile isBlank ++ c :: back := by
    rw [List.dropWhile_append, stops]
    split
    next empty => rw [List.isEmpty_iff.1 empty, List.nil_append]
    next => rfl
  have ended : ∀ kept : List Char, dropEndWhile isBlank (kept ++ c :: back) =
      kept ++ c :: dropEndWhile isBlank back := by
    intro kept
    simp only [dropEndWhile, List.reverse_append, List.reverse_cons, List.append_assoc,
      List.singleton_append, List.dropWhile_append, stops]
    split
    next empty => simp [List.isEmpty_iff.1 empty]
    next => simp
  rw [trimChars, started, ended]

theorem dropWhile_of_forall {p : Char → Bool} (kept : ∀ c ∈ cs, p c = false) :
    cs.dropWhile p = cs :=
  List.dropWhile_eq_self_iff.2 fun _ => by simp [kept]

theorem dropEndWhile_of_forall {p : Char → Bool} (kept : ∀ c ∈ cs, p c = false) :
    dropEndWhile p cs = cs := by
  rw [dropEndWhile, dropWhile_of_forall (by simpa using kept), List.reverse_reverse]

theorem trimChars_of_visible (visible : ∀ c ∈ cs, isBlank c = false) : trimChars cs = cs := by
  rw [trimChars, dropWhile_of_forall visible, dropEndWhile_of_forall visible]

theorem trim_of_visible {s : String} (visible : ∀ c ∈ s.toList, isBlank c = false) : trim s = s := by
  rw [trim, trimChars_of_visible visible, String.ofList_toList]

end Transclusion.Text
