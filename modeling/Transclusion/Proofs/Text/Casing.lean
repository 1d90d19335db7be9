import Transclusion.Proofs.Headers
import Transclusion.Proofs.Text.Pieces

/-!
# The case of letters

Putting a text into lower case changes letters into letters. What does not depend on letters
(blanks, separators and other signs) is as before.

## Main results

`trim_lower`: a text can be trimmed before or after it is put into lower case.
-/

namespace Transclusion.Text

/-- What no letter satisfies does not depend on the case of a character. -/
theorem apply_toLower {p : Char → Bool} (letters : ∀ c, c.isAlpha = true → p c = false) (c : Char) :
    p c.toLower = p c := by
  by_cases upper : c.isUpper
  · have letter : c.isAlpha = true := by simp [Char.isAlpha, upper]
    rw [letters c letter]
    apply letters
    rw [Char.isAlpha_toLower_eq_isAlpha, letter]
  · rw [Char.toLower_eq_of_not_isUpper upper]

theorem any_lower {p : Char → Bool} (letters : ∀ c, c.isAlpha = true → p c = false) (s : String) :
    (lower s).toList.any p = s.toList.any p := by
  have same : p ∘ Char.toLower = p := funext (apply_toLower letters)
  rw [toList_lower, List.any_map, same]

theorem mem_lower {sign : Char} (noLetter : sign.isAlpha = false) {s : String} :
    sign ∈ (lower s).toList ↔ sign ∈ s.toList := by
  have letters : ∀ c : Char, c.isAlpha = true → (sign == c) = false := by
    intro c letter
    rw [beq_eq_false_iff_ne]
    rintro rfl
    simp [letter] at noLetter
  have same := any_lower letters s
  rwa [Bool.eq_iff_iff, List.any_beq, List.any_beq, List.elem_iff, List.elem_iff] at same

theorem mem_of_same {sign : Char} (noLetter : sign.isAlpha = false) {a b : String}
    (same : sameIgnoringCase a b = true) : sign ∈ a.toList ↔ sign ∈ b.toList := by
  rw [← mem_lower noLetter, sameIgnoringCase_iff.1 same, mem_lower noLetter]

theorem isBlank_of_isAlpha (c : Char) (letter : c.isAlpha = true) : isBlank c = false := by
  simp [Char.isAlpha, Char.isUpper, Char.isLower, UInt32.le_iff_toNat_le] at letter
  simp [isBlank]
  omega

theorem visible_of_same {a b : String} (same : sameIgnoringCase a b = true)
    (visible : ∀ c ∈ b.toList, isBlank c = false) : ∀ c ∈ a.toList, isBlank c = false := by
  have blankless : b.toList.any isBlank = false := by simpa using visible
  rw [← any_lower isBlank_of_isAlpha, ← sameIgnoringCase_iff.1 same,
    any_lower isBlank_of_isAlpha] at blankless
  simpa using blankless

theorem trim_lower (s : String) : trim (lower s) = lower (trim s) := by
  have same : isBlank ∘ Char.toLower = isBlank := funext (apply_toLower isBlank_of_isAlpha)
  rw [← String.toList_inj]
  simp [trimChars, dropEndWhile, ← List.map_reverse, List.dropWhile_map, same]

theorem mem_lower_trim {sign : Char} (noLetter : sign.isAlpha = false)
    (visible : isBlank sign = false) {s : String} :
    sign ∈ (lower (trim s)).toList ↔ sign ∈ s.toList := by
  rw [mem_lower noLetter, toList_trim, mem_trimChars visible]

theorem trim_trim (s : String) : trim (trim s) = trim s := by
  rw [← String.toList_inj, toList_trim, toList_trim]
  calc trimChars (trimChars s.toList)
    _ = trimChars (s.toList.dropWhile isBlank) := trimChars_dropEndWhile _
    _ = trimChars s.toList := trimChars_dropWhile _

end Transclusion.Text
