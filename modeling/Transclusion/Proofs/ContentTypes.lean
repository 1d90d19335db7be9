import Transclusion.Proofs.Repository
import Transclusion.Proofs.Text.Casing

/-!
# Content types of a catalog

A catalog is asked with the content type of a response, of which only the media type counts, in
whatever case and with whatever parameters. What has been registered counts in whatever case too, but
as a whole: a content type that was registered with parameters is never found.

## Main results

`Catalog.assemblage_eq_iff_selects`: which of the registered assemblages a content type selects.
`Catalog.assemblage_misses_parameters`: one that is not found by the content type it is registered
for.
-/

namespace Transclusion

namespace MediaType

/-- What stands before the first semicolon of a content type, but for blanks at its ends. -/
def essence (contentType : String) : String :=
  Text.trim (String.ofList (contentType.toList.takeWhile (· != ';')))

/-- Whether two content types have the same media type, in whatever case. -/
def Same (contentType other : String) : Prop :=
  Text.sameIgnoringCase (essence contentType) (essence other) = true

theorem media_parse (contentType : String) :
    (parse contentType).media = Text.lower (essence contentType) := by
  obtain ⟨pieces, split⟩ := Text.exists_splitChars ';' contentType.toList
  simp [parse, Text.splitOn, split, essence]

theorem essence_of_bare {contentType : String} (bare : ';' ∉ contentType.toList) :
    essence contentType = Text.trim contentType := by
  have whole : contentType.toList.takeWhile (· != ';') = contentType.toList := by
    rw [List.takeWhile_eq_self_iff]
    rintro c member
    exact bne_iff_ne.2 fun same => bare (same ▸ member)
  rw [essence, whole, String.ofList_toList]

/-- As it is registered, a content type is the media type of another one only if it has no
parameters. -/
theorem registered_eq_media_iff {registered contentType : String} :
    Text.lower (Text.trim registered) = (parse contentType).media ↔
      ';' ∉ registered.toList ∧ Same registered contentType := by
  rw [media_parse, Same, Text.sameIgnoringCase_iff]
  constructor
  · intro equal
    have bare : ';' ∉ registered.toList := by
      have unchanged := @Text.mem_lower_trim ';' (by decide) (by decide)
      -- The media type ends before the first semicolon.
      rw [← unchanged, equal, essence, unchanged, String.toList_ofList]
      intro member
      simpa using List.mem_takeWhile_imp member
    exact ⟨bare, by rw [essence_of_bare bare, equal]⟩
  · rintro ⟨bare, same⟩
    rw [← same, essence_of_bare bare]

end MediaType

namespace Catalog

variable {parts : List (Assemblage × List String × List Resource)} {contentType : String}

/-- The catalog in which assemblages have been registered one after the other, each with content
types and resources. -/
def ofParts (parts : List (Assemblage × List String × List Resource)) : Catalog :=
  parts.foldl (fun c p => c.insert p.1 p.2.1 p.2.2) .empty

theorem entries_ofParts : (ofParts parts).entries = parts.map .ofParts := by
  simp [ofParts, entries_foldl_insert, empty]

/-- Whether an assemblage is registered for the media type of a content type, without parameters. -/
def IsListed (contentType : String) (p : Assemblage × List String × List Resource) : Prop :=
  ∃ registered ∈ p.2.1, ';' ∉ registered.toList ∧ MediaType.Same registered contentType

/-- What a content type selects: the first assemblage that is listed for it, if there is one. -/
inductive Selects (parts : List (Assemblage × List String × List Resource)) (contentType : String) :
    Option Assemblage → Prop where
  | first {k : Nat} {p : Assemblage × List String × List Resource}
      (first : FirstAt (IsListed contentType) parts k p) : Selects parts contentType (some p.1)
  | unlisted (unfit : ∀ p ∈ parts, ¬ IsListed contentType p) : Selects parts contentType none

theorem contains_media_iff {p : Assemblage × List String × List Resource} :
    (CatalogEntry.ofParts p).contentTypes.contains (MediaType.parse contentType).media = true ↔
      IsListed contentType p := by
  simp [CatalogEntry.ofParts, IsListed, ← MediaType.registered_eq_media_iff]

theorem assemblage_of_selects {found : Option Assemblage}
    (selects : Selects parts contentType found) :
    (ofParts parts).assemblage contentType = found := by
  have related : List.Forall₂ (fun p e => e = CatalogEntry.ofParts p) parts
      (ofParts parts).entries := by
    simp [entries_ofParts, List.forall₂_map_right_iff, List.forall₂_same]
  have alike : ∀ p e, e = CatalogEntry.ofParts p →
      (e.contentTypes.contains (MediaType.parse contentType).media = true ↔
        IsListed contentType p) := by
    rintro p _ rfl
    exact contains_media_iff
  unfold assemblage
  cases selects with
  | first first =>
    obtain ⟨e, searched, -, rfl⟩ := find?_of_firstAt related alike first
    rw [searched]
    rfl
  | unlisted unfit =>
    rw [find?_eq_none_of_forall₂ related alike unfit]
    rfl

/-- A content type selects the first assemblage that is registered for its media type, without
parameters, and nothing if there is none. -/
theorem assemblage_eq_iff_selects (parts : List (Assemblage × List String × List Resource))
    (contentType : String) (found : Option Assemblage) :
    (ofParts parts).assemblage contentType = found ↔ Selects parts contentType found := by
  constructor
  · rintro rfl
    rcases exists_firstAt (IsListed contentType) parts with ⟨k, p, first⟩ | unfit
    · rw [assemblage_of_selects (.first first)]
      exact .first first
    · rw [assemblage_of_selects (.unlisted unfit)]
      exact .unlisted unfit
  · exact assemblage_of_selects

/-- An assemblage that is registered for a content type with parameters is not found by it. -/
theorem assemblage_misses_parameters :
    let given := "text/html; charset=utf-8"
    let parts := [(Assemblage.make "html", [given], ([] : List Resource))]
    FirstAt (fun p => ∃ registered ∈ p.2.1, MediaType.Same registered given) parts 0
        (.make "html", [given], []) ∧
      (ofParts parts).assemblage given = none := by
  refine ⟨.head ⟨_, List.mem_singleton_self _, ?_⟩, ?_⟩
  · simp [MediaType.Same, Text.sameIgnoringCase_iff]
  · exact assemblage_of_selects (.unlisted (by simp [IsListed]))

end Catalog

end Transclusion
