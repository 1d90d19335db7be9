import Transclusion.Config.Basic
import Transclusion.Proofs.Config.Compilation

/-!
# Selected rules

A catalog is asked twice: by the content type of a response for the assemblage, and by the identity
of the assemblage for the matchers of a resource. Either time the first entry that fits is taken. So
an assemblage comes with its own resources if no earlier one has its identity. If one does, only the
resources of the earlier one are ever found.

## Main results

`Config.matchers_of_namesake`: whose resources are found for the assemblage of a content type.
`Config.matchers_of_selected`: they are its own if no earlier assemblage has its identity.
-/

namespace Transclusion

section

variable {α β : Type} {P : α → Prop} {R : α → β → Prop} {q : β → Bool} {x y : α} {k : Nat}
  {xs : List α} {ys : List β}

/-- Whether a list has a member with some property at a position, and none before it. -/
structure FirstAt (P : α → Prop) (xs : List α) (k : Nat) (x : α) : Prop where
  here : xs[k]? = some x
  fits : P x
  earlier : ∀ j < k, ∀ y, xs[j]? = some y → ¬ P y

theorem FirstAt.head (fits : P x) : FirstAt P (x :: xs) 0 x :=
  ⟨rfl, fits, by simp⟩

theorem FirstAt.cons (unfit : ¬ P y) (first : FirstAt P xs k x) : FirstAt P (y :: xs) (k + 1) x := by
  refine ⟨first.here, first.fits, fun j before z here => ?_⟩
  cases j with
  | zero =>
    obtain rfl := Option.some.inj here
    exact unfit
  | succ j => exact first.earlier j (Nat.lt_of_succ_lt_succ before) z here

theorem FirstAt.tail (first : FirstAt P (y :: xs) (k + 1) x) : ¬ P y ∧ FirstAt P xs k x :=
  ⟨first.earlier 0 (Nat.succ_pos k) y rfl, first.here, first.fits,
    fun j before z here => first.earlier (j + 1) (Nat.succ_lt_succ before) z here⟩

theorem FirstAt.append_left (first : FirstAt P xs k x) (zs : List α) : FirstAt P (xs ++ zs) k x := by
  obtain ⟨here, fits, earlier⟩ := first
  have bound := (List.getElem?_eq_some_iff.1 here).1
  refine ⟨by rwa [List.getElem?_append_left bound], fits, fun j before y found => ?_⟩
  rw [List.getElem?_append_left (Nat.lt_trans before bound)] at found
  exact earlier j before y found

theorem FirstAt.append_right (first : FirstAt P xs k x) {zs : List α} (unfit : ∀ z ∈ zs, ¬ P z) :
    FirstAt P (zs ++ xs) (zs.length + k) x := by
  induction zs with
  | nil => simpa using first
  | cons z zs ih =>
    rw [List.forall_mem_cons] at unfit
    simpa [Nat.add_right_comm] using (ih unfit.2).cons unfit.1

theorem FirstAt.unique {j : Nat} (first : FirstAt P xs k x) (other : FirstAt P xs j y) : x = y := by
  rcases Nat.lt_trichotomy k j with before | rfl | after
  · exact absurd first.fits (other.earlier k before x first.here)
  · exact Option.some.inj (first.here.symm.trans other.here)
  · exact absurd other.fits (first.earlier j after y other.here)

theorem exists_firstAt (P : α → Prop) (xs : List α) :
    (∃ k x, FirstAt P xs k x) ∨ ∀ x ∈ xs, ¬ P x := by
  induction xs with
  | nil => exact .inr (by simp)
  | cons x xs ih =>
    by_cases fits : P x
    · exact .inl ⟨0, x, .head fits⟩
    · rcases ih with ⟨k, y, first⟩ | unfit
      · exact .inl ⟨k + 1, y, first.cons fits⟩
      · exact .inr (List.forall_mem_cons.2 ⟨fits, unfit⟩)

/-- A search finds what is related to the first member that fits, at the same position. -/
theorem find?_of_firstAt (related : List.Forall₂ R xs ys)
    (alike : ∀ x y, R x y → (q y = true ↔ P x)) (first : FirstAt P xs k x) :
    ∃ y, ys.find? q = some y ∧ ys[k]? = some y ∧ R x y := by
  induction related generalizing k with
  | nil => cases first.here
  | @cons z w _ _ both _ ih =>
    cases k with
    | zero =>
      obtain rfl := Option.some.inj first.here
      exact ⟨w, List.find?_cons_of_pos ((alike z w both).2 first.fits), rfl, both⟩
    | succ k =>
      obtain ⟨unfit, rest⟩ := first.tail
      have passed : ¬ q w = true := fun found => unfit ((alike z w both).1 found)
      rw [List.find?_cons_of_neg passed]
      exact ih rest

theorem forall_mem_iff_of_forall₂ {Q : β → Prop} (related : List.Forall₂ R xs ys)
    (alike : ∀ x y, R x y → (Q y ↔ P x)) : (∀ y ∈ ys, Q y) ↔ ∀ x ∈ xs, P x := by
  induction related with
  | nil => simp
  | cons both _ ih => rw [List.forall_mem_cons, List.forall_mem_cons, alike _ _ both, ih]

theorem find?_eq_none_of_forall₂ (related : List.Forall₂ R xs ys)
    (alike : ∀ x y, R x y → (q y = true ↔ P x)) (unfit : ∀ x ∈ xs, ¬ P x) : ys.find? q = none :=
  List.find?_eq_none.2
    ((forall_mem_iff_of_forall₂ related fun x y both => not_congr (alike x y both)).2 unfit)

end

variable {contentType method uri : String} {headers : Headers}

/-- Whether an assemblage is configured for a content type. -/
def AssemblageRule.IsFor (a : AssemblageRule) (contentType : String) : Prop :=
  ∃ t ∈ a.contentTypes, Text.lower (Text.trim t) = (MediaType.parse contentType).media

/-- Whether a resource as configured covers a request: the method is the same but for the case of
its letters, the pattern of the URI matches, and so does that of every header named, for some value
of that name. -/
structure ResourceRule.Applies (r : ResourceRule) (method uri : String) (headers : Headers) : Prop
    where
  method : Text.sameIgnoringCase r.method method = true
  uri : ∃ p, Pattern.compile? r.uri = some p ∧ p.isMatch uri = true
  headers : ∀ h ∈ r.headers, ∃ p, Pattern.compile? h.2 = some p ∧
    ∃ value ∈ headers.getAll h.1, p.isMatch value = true

/-- What an assemblage has for a request: the matchers of its first resource that applies, or
nothing if none applies or the one that does has no matchers. -/
inductive AssemblageRule.Answers (a : AssemblageRule) (method uri : String) (headers : Headers) :
    Option (List Matcher) → Prop
  | uncovered (unfit : ∀ r ∈ a.resources, ¬ r.Applies method uri headers) :
      Answers a method uri headers none
  | bare {k : Nat} {r : ResourceRule} (first : FirstAt (·.Applies method uri headers) a.resources k r)
      (bare : r.matchers = []) : Answers a method uri headers none
  | given {k : Nat} {r : ResourceRule} {ms : List Matcher}
      (first : FirstAt (·.Applies method uri headers) a.resources k r)
      (equipped : r.matchers ≠ []) (compiled : List.Forall₂ MatcherRule.Compiles r.matchers ms) :
      Answers a method uri headers (some ms)

theorem Text.lower_upper (s : String) : Text.lower (Text.upper s) = Text.lower s := by
  have char (c : Char) : c.toUpper.toLower = c.toLower := by
    unfold Char.toUpper
    split
    case isTrue low =>
      rw [UInt32.le_iff_toNat_le, UInt32.le_iff_toNat_le] at low
      ext
      unfold Char.toLower
      split <;> split <;> grind [UInt32.toNat_add]
    case isFalse => rfl
  simp only [Text.lower, Text.upper, String.toList_ofList, List.map_map]
  exact congrArg String.ofList (List.map_congr_left fun c _ => char c)

theorem ResourceRule.Compiles.applies_iff {r : ResourceRule} {c : Resource} (compiled : r.Compiles c) :
    c.applies method uri headers = true ↔ r.Applies method uri headers := by
  have named : Text.sameIgnoringCase c.method method = Text.sameIgnoringCase r.method method := by
    rw [compiled.method, Text.sameIgnoringCase, Text.lower_upper, Text.sameIgnoringCase]
  have located : c.uri.isMatch uri = true ↔
      ∃ p, Pattern.compile? r.uri = some p ∧ p.isMatch uri = true := by
    simp only [compiled.uri, Option.some.injEq, exists_eq_left']
  have required : (∀ d ∈ c.headers, (headers.getAll d.1).any d.2.isMatch = true) ↔
      ∀ h ∈ r.headers, ∃ p, Pattern.compile? h.2 = some p ∧
        ∃ value ∈ headers.getAll h.1, p.isMatch value = true := by
    refine forall_mem_iff_of_forall₂ compiled.headers ?_
    rintro h d ⟨same, header⟩
    simp only [header, same, List.any_eq_true, Option.some.injEq, exists_eq_left']
  rw [Resource.applies, Bool.and_eq_true, Bool.and_eq_true, named, List.all_eq_true, located,
    required, and_assoc]
  constructor
  · rintro ⟨method, uri, headers⟩
    exact ⟨method, uri, headers⟩
  · rintro ⟨method, uri, headers⟩
    exact ⟨method, uri, headers⟩

theorem AssemblageRule.Compiles.isFor_iff {a : AssemblageRule} {e : CatalogEntry}
    (compiled : a.Compiles e) :
    e.contentTypes.contains (MediaType.parse contentType).media = true ↔ a.IsFor contentType := by
  rw [compiled.contentTypes, List.contains_iff_mem, List.mem_map]
  rfl

theorem Catalog.matchers_of_find? {c : Catalog} {a : Assemblage} {e : CatalogEntry}
    (found : c.entries.find? (fun e => e.assemblage.id == a.id) = some e) :
    c.matchers a method uri headers =
      (e.resources.find? fun r => r.applies method uri headers).bind fun r =>
        if r.matchers.isEmpty then none else some r.matchers := by
  simp only [Catalog.matchers, found]
  cases e.resources.find? fun r => r.applies method uri headers <;> rfl

theorem AssemblageRule.Compiles.answers {a : AssemblageRule} {e : CatalogEntry}
    (compiled : a.Compiles e) :
    a.Answers method uri headers
      ((e.resources.find? fun r => r.applies method uri headers).bind fun r =>
        if r.matchers.isEmpty then none else some r.matchers) := by
  rcases exists_firstAt (fun r : ResourceRule => r.Applies method uri headers) a.resources with
    ⟨k, r, first⟩ | unfit
  · obtain ⟨c, found, -, same⟩ :=
      find?_of_firstAt compiled.resources (fun _ _ same => same.applies_iff) first
    rw [found, Option.bind_some]
    have matchers := same.matchers
    split_ifs with empty
    · rw [List.isEmpty_iff.1 empty, List.forall₂_nil_right_iff] at matchers
      exact .bare first matchers
    · refine .given first ?_ matchers
      intro bare
      rw [bare, List.forall₂_nil_left_iff] at matchers
      exact empty (List.isEmpty_iff.2 matchers)
  · rw [find?_eq_none_of_forall₂ compiled.resources (fun _ _ same => same.applies_iff) unfit]
    exact .uncovered unfit

namespace Config

variable {config : Config} {catalog : Catalog} {k j : Nat} {a b : AssemblageRule}

/-- For the assemblage that is selected, the resources of the first one of its identity are found.
-/
theorem matchers_of_namesake (compiled : config.catalog = .ok catalog)
    (selected : FirstAt (·.IsFor contentType) config.assemblages k a)
    (namesake : FirstAt (·.id = a.id) config.assemblages j b)
    (method uri : String) (headers : Headers) :
    ∃ e, catalog.entries[k]? = some e ∧ a.Compiles e ∧
      catalog.assemblage contentType = some e.assemblage ∧
      b.Answers method uri headers (catalog.matchers e.assemblage method uri headers) := by
  have entries := compileCatalog_eq_ok_iff.1 compiled
  obtain ⟨e, found, here, same⟩ := find?_of_firstAt entries (fun _ _ same => same.isFor_iff) selected
  have named : ∀ (a' : AssemblageRule) (e' : CatalogEntry), a'.Compiles e' →
      ((e'.assemblage.id == e.assemblage.id) = true ↔ a'.id = a.id) := by
    intro a' e' same'
    rw [beq_iff_eq, same.id, same'.id]
  obtain ⟨e', found', -, same'⟩ := find?_of_firstAt entries named namesake
  refine ⟨e, here, same, ?_, ?_⟩
  · rw [Catalog.assemblage, found, Option.map_some]
  · rw [Catalog.matchers_of_find? found']
    exact same'.answers

/-- For the assemblage that is selected, its own resources are found if no earlier one has its
identity. -/
theorem matchers_of_selected (compiled : config.catalog = .ok catalog)
    (selected : FirstAt (·.IsFor contentType) config.assemblages k a)
    (unshadowed : ∀ j < k, ∀ b, config.assemblages[j]? = some b → b.id ≠ a.id)
    (method uri : String) (headers : Headers) :
    ∃ e, catalog.entries[k]? = some e ∧ a.Compiles e ∧
      catalog.assemblage contentType = some e.assemblage ∧
      a.Answers method uri headers (catalog.matchers e.assemblage method uri headers) :=
  matchers_of_namesake compiled selected ⟨selected.here, rfl, unshadowed⟩ method uri headers

/-! ### Two assemblages -/

def itemResource : ResourceRule :=
  ⟨"GET", "page", [], [⟨some "item", "<item>", none, []⟩]⟩

def jsonRule (identity : String) : AssemblageRule :=
  ⟨identity, ["application/json"], [], [], [itemResource]⟩

/-- An assemblage without resources before one with a resource and a given identity. -/
def htmlAndJson (identity : String) : Config :=
  ⟨default, default, [⟨"html", ["text/html"], [], [], []⟩, jsonRule identity]⟩

theorem selected_json (identity : String) :
    FirstAt (·.IsFor "application/json; charset=utf-8") (htmlAndJson identity).assemblages 1
      (jsonRule identity) := by
  refine .cons ?_ (.head ⟨_, List.mem_cons_self, by decide +kernel⟩)
  rintro ⟨t, member, same⟩
  obtain rfl := List.mem_singleton.1 member
  revert same
  decide +kernel

theorem applies_itemResource : itemResource.Applies "get" "page" .empty := by
  have located : (Pattern.compile? "page").any (·.isMatch "page") = true := by
    decide +kernel
  obtain ⟨p, compiled, located⟩ := (Option.any_eq_true _ _).1 located
  exact ⟨by decide, ⟨p, compiled, located⟩, by simp [itemResource]⟩

theorem exists_catalog {p : Catalog → Bool} (compiles : config.catalog.toOption.any p = true) :
    ∃ catalog, config.catalog = .ok catalog ∧ p catalog = true := by
  cases compiled : config.catalog with
  | error fault =>
    rw [compiled] at compiles
    cases compiles
  | ok catalog =>
    rw [compiled] at compiles
    exact ⟨catalog, rfl, compiles⟩

theorem matchers_of_selected_json :
    ∃ (catalog : Catalog) (e : CatalogEntry), (htmlAndJson "json").catalog = .ok catalog ∧
      FirstAt (·.IsFor "application/json; charset=utf-8") (htmlAndJson "json").assemblages 1
        (jsonRule "json") ∧
      (∀ j < 1, ∀ b, (htmlAndJson "json").assemblages[j]? = some b → b.id ≠ (jsonRule "json").id) ∧
      catalog.assemblage "application/json; charset=utf-8" = some e.assemblage ∧
      (jsonRule "json").Answers "get" "page" .empty
        (catalog.matchers e.assemblage "get" "page" .empty) ∧
      (catalog.matchers e.assemblage "get" "page" .empty).isSome = true := by
  obtain ⟨catalog, compiled, answered⟩ := @exists_catalog (htmlAndJson "json")
    (fun c => (c.assemblage "application/json; charset=utf-8").any fun a =>
      (c.matchers a "get" "page" .empty).isSome) (by decide +kernel)
  have unshadowed : ∀ j < 1, ∀ b, (htmlAndJson "json").assemblages[j]? = some b →
      b.id ≠ (jsonRule "json").id := by
    intro j before b here
    obtain rfl := Nat.lt_one_iff.1 before
    obtain rfl := Option.some.inj here
    decide
  obtain ⟨e, -, -, selected, answers⟩ :=
    matchers_of_selected compiled (selected_json "json") unshadowed "get" "page" .empty
  rw [selected, Option.any_some] at answered
  exact ⟨catalog, e, compiled, selected_json "json", unshadowed, selected, answers, answered⟩

def sharedIdText : String :=
  "assemblages:\n- id: html\n  content_types: [text/html]\n- id: html\n" ++
    "  content_types: [application/json]\n  resources:\n  - uri: page\n    matchers:\n" ++
    "    - name: item\n      pattern: <item>"

/-- An assemblage whose identity an earlier one has is selected, but its resources are not found. -/
theorem matchers_of_shared_id :
    ∃ (catalog : Catalog) (assemblage : Assemblage),
      parse sharedIdText = .ok (htmlAndJson "html") ∧
      (htmlAndJson "html").catalog = .ok catalog ∧
      FirstAt (·.IsFor "application/json; charset=utf-8") (htmlAndJson "html").assemblages 1
        (jsonRule "html") ∧
      catalog.assemblage "application/json; charset=utf-8" = some assemblage ∧
      ¬ (jsonRule "html").Answers "get" "page" .empty
        (catalog.matchers assemblage "get" "page" .empty) := by
  obtain ⟨catalog, compiled, unanswered⟩ := @exists_catalog (htmlAndJson "html")
    (fun c => (c.assemblage "application/json; charset=utf-8").any fun a =>
      (c.matchers a "get" "page" .empty).isNone) (by decide +kernel)
  obtain ⟨assemblage, selected, none⟩ := (Option.any_eq_true _ _).1 unanswered
  refine ⟨catalog, assemblage, by decide +kernel, compiled, selected_json "html", selected, ?_⟩
  rw [Option.isNone_iff_eq_none.1 none]
  intro answers
  cases answers with
  | uncovered unfit => exact unfit itemResource List.mem_cons_self applies_itemResource
  | bare first bare =>
    obtain rfl := List.mem_singleton.1 (List.mem_of_getElem? first.here)
    cases bare

end Config

end Transclusion
