import Mathlib.Data.List.Forall2
import Mathlib.Data.Option.Basic
import Transclusion.Config.Rules

/-!
# Compiled rules

What a rule compiles to, apart from how it is compiled: every pattern in it is the one that its text
denotes, and everything else is as configured. A catalog is compiled from its rules if its entries
are, one for each rule and in the same order.

## Main results

`compileCatalog_eq_ok_iff`: the catalog of a list of rules has their entries, in order.
-/

namespace Transclusion

variable {α β ε : Type}

theorem bind_eq_ok_iff {x : Except ε α} {f : α → Except ε β} {b : β} :
    (x >>= f) = .ok b ↔ ∃ a, x = .ok a ∧ f a = .ok b := by
  cases x <;> simp [bind, Except.bind]

theorem named_eq_ok_iff {x : Except ε β} {name : α} {d : α × β} :
    (do .ok (name, ← x)) = .ok d ↔ d.1 = name ∧ x = .ok d.2 := by
  simp only [bind_eq_ok_iff, Except.ok.injEq]
  constructor
  · rintro ⟨b, result, rfl⟩
    exact ⟨rfl, result⟩
  · rintro ⟨rfl, result⟩
    exact ⟨d.2, result, rfl⟩

/-- Steps that succeed apart from their positions relate the members of a list one by one. -/
theorem eachIndexed_eq_ok_iff {step : Nat → α → Except ε β} {R : α → β → Prop}
    (each : ∀ k x y, step k x = .ok y ↔ R x y) {k : Nat} {xs : List α} {ys : List β} :
    eachIndexed step k xs = .ok ys ↔ List.Forall₂ R xs ys := by
  induction xs generalizing k ys with
  | nil => cases ys <;> simp [eachIndexed]
  | cons x xs ih =>
    simp only [eachIndexed, bind_eq_ok_iff, each, ih, Except.ok.injEq,
      List.forall₂_cons_left_iff]
    constructor
    · rintro ⟨y, first, ys, others, rfl⟩
      exact ⟨y, ys, first, others, rfl⟩
    · rintro ⟨y, ys, first, others, rfl⟩
      exact ⟨y, first, ys, others, rfl⟩

structure ReplacerRule.Compiles (r : ReplacerRule) (c : Replacer) : Prop where
  pattern : Pattern.compile? r.pattern = some c.pattern
  template : c.template = r.template

structure MatcherRule.Compiles (m : MatcherRule) (c : Matcher) : Prop where
  name : c.name = m.name
  pattern : Pattern.compile? m.pattern = some c.pattern
  reference : Option.Rel (fun source p => Pattern.compile? source = some p) m.reference c.reference
  present : c.present = sortedSet m.present

structure ResourceRule.Compiles (r : ResourceRule) (c : Resource) : Prop where
  method : c.method = Text.upper r.method
  uri : Pattern.compile? r.uri = some c.uri
  headers : List.Forall₂ (fun h d => d.1 = h.1 ∧ Pattern.compile? h.2 = some d.2)
    r.headers c.headers
  matchers : List.Forall₂ MatcherRule.Compiles r.matchers c.matchers

structure AssemblageRule.Compiles (a : AssemblageRule) (e : CatalogEntry) : Prop where
  id : e.assemblage.id = a.id
  contentTypes : e.contentTypes = a.contentTypes.map fun t => Text.lower (Text.trim t)
  errors : List.Forall₂ (fun s d => d.1 = s.1 ∧ ReplacerRule.Compiles s.2 d.2)
    a.errors e.assemblage.errors
  adjusters : List.Forall₂ ReplacerRule.Compiles a.adjusters e.assemblage.adjusters
  resources : List.Forall₂ ResourceRule.Compiles a.resources e.resources

theorem ReplacerRule.compile_eq_ok_iff {r : ReplacerRule} {field : String → String} {c : Replacer} :
    r.compile field = .ok c ↔ r.Compiles c := by
  simp only [ReplacerRule.compile, bind_eq_ok_iff, compilePattern_eq_ok_iff, Except.ok.injEq]
  constructor
  · rintro ⟨p, pattern, rfl⟩
    exact ⟨pattern, rfl⟩
  · rintro ⟨pattern, template⟩
    exact ⟨c.pattern, pattern, by rw [← template]⟩

theorem MatcherRule.compile_eq_ok_iff {m : MatcherRule} {field : String → String} {c : Matcher} :
    m.compile field = .ok c ↔ m.Compiles c := by
  simp only [MatcherRule.compile, bind_eq_ok_iff, compilePattern_eq_ok_iff]
  constructor
  · rintro ⟨p, pattern, rest⟩
    cases same : m.reference with
    | none =>
      rw [same] at rest
      cases rest
      exact ⟨rfl, pattern, same ▸ .none, rfl⟩
    | some source =>
      simp only [same, bind_eq_ok_iff, compilePattern_eq_ok_iff] at rest
      obtain ⟨q, reference, rest⟩ := rest
      cases rest
      exact ⟨rfl, pattern, same ▸ .some reference, rfl⟩
  · rintro ⟨name, pattern, reference, present⟩
    obtain ⟨_, _, q, _⟩ := c
    obtain ⟨_, _, source, _⟩ := m
    cases name
    cases present
    refine ⟨_, pattern, ?_⟩
    cases reference with
    | none => rfl
    | some reference =>
      simp only [bind_eq_ok_iff, compilePattern_eq_ok_iff]
      exact ⟨_, reference, rfl⟩

theorem ResourceRule.compile_eq_ok_iff {r : ResourceRule} {field : String} {c : Resource} :
    r.compile field = .ok c ↔ r.Compiles c := by
  have header : ∀ (_ : Nat) (h : String × String) (d : String × Pattern),
      (do .ok (h.1, ← compilePattern (field ++ ".headers." ++ h.1) h.2)) = Except.ok d ↔
        d.1 = h.1 ∧ Pattern.compile? h.2 = some d.2 := by
    intro _ h d
    rw [named_eq_ok_iff, compilePattern_eq_ok_iff]
  have matcher : ∀ (k : Nat) (m : MatcherRule) (d : Matcher),
      m.compile (fun part => s!"{field}.matchers[{k}].{part}") = .ok d ↔ m.Compiles d :=
    fun _ _ _ => MatcherRule.compile_eq_ok_iff
  simp only [ResourceRule.compile, bind_eq_ok_iff, compilePattern_eq_ok_iff,
    eachIndexed_eq_ok_iff header, eachIndexed_eq_ok_iff matcher, Except.ok.injEq]
  constructor
  · rintro ⟨uri, located, headers, required, matchers, given, rfl⟩
    exact ⟨rfl, located, required, given⟩
  · rintro ⟨method, uri, headers, matchers⟩
    exact ⟨_, uri, _, headers, _, matchers, by rw [← method]⟩

theorem AssemblageRule.compile_eq_ok_iff {a : AssemblageRule} {c : Assemblage × List Resource} :
    a.compile = .ok c ↔
      a.Compiles ⟨c.1, a.contentTypes.map fun t => Text.lower (Text.trim t), c.2⟩ := by
  have slot : ∀ (_ : Nat) (s : String × ReplacerRule) (d : String × Replacer),
      (do .ok (s.1, ← ReplacerRule.compile s.2 fun part => s!"{a.id}.errors.{s.1}.{part}")) =
        Except.ok d ↔ d.1 = s.1 ∧ s.2.Compiles d.2 := by
    intro _ s d
    rw [named_eq_ok_iff, ReplacerRule.compile_eq_ok_iff]
  have adjuster : ∀ (k : Nat) (r : ReplacerRule) (d : Replacer),
      r.compile (fun part => s!"{a.id}.adjusters[{k}].{part}") = .ok d ↔ r.Compiles d :=
    fun _ _ _ => ReplacerRule.compile_eq_ok_iff
  have resource : ∀ (k : Nat) (r : ResourceRule) (d : Resource),
      r.compile s!"{a.id}.resources[{k}]" = .ok d ↔ r.Compiles d :=
    fun _ _ _ => ResourceRule.compile_eq_ok_iff
  simp only [AssemblageRule.compile, bind_eq_ok_iff, eachIndexed_eq_ok_iff slot,
    eachIndexed_eq_ok_iff adjuster, eachIndexed_eq_ok_iff resource, Except.ok.injEq]
  constructor
  · rintro ⟨errors, slots, adjusters, adjusting, resources, given, rfl⟩
    exact ⟨rfl, rfl, slots, adjusting, given⟩
  · rintro ⟨id, -, errors, adjusters, resources⟩
    exact ⟨_, errors, _, adjusters, _, resources, by rw [← id]⟩

/-- The entry that is inserted for an assemblage, content types and resources. -/
def CatalogEntry.ofParts (p : Assemblage × List String × List Resource) : CatalogEntry :=
  ⟨p.1, p.2.1.map fun t => Text.lower (Text.trim t), p.2.2⟩

theorem Catalog.entries_foldl_insert (c : Catalog)
    (parts : List (Assemblage × List String × List Resource)) :
    (parts.foldl (fun c p => c.insert p.1 p.2.1 p.2.2) c).entries =
      c.entries ++ parts.map .ofParts := by
  induction parts generalizing c with
  | nil => rw [List.foldl_nil, List.map_nil, List.append_nil]
  | cons p parts ih =>
    rw [List.foldl_cons, ih, Catalog.insert, List.map_cons, List.append_assoc, List.singleton_append]
    rfl

theorem exists_parts {rules : List AssemblageRule} {entries : List CatalogEntry}
    (compiled : List.Forall₂ AssemblageRule.Compiles rules entries) :
    ∃ parts, List.Forall₂ (fun a p => p.2.1 = a.contentTypes ∧ a.Compiles (.ofParts p))
      rules parts ∧ parts.map .ofParts = entries := by
  induction compiled with
  | nil => exact ⟨[], .nil, rfl⟩
  | @cons a e _ _ first _ ih =>
    obtain ⟨parts, inserted, rfl⟩ := ih
    obtain ⟨assemblage, _, resources⟩ := e
    obtain rfl := first.contentTypes
    exact ⟨(assemblage, a.contentTypes, resources) :: parts, .cons ⟨rfl, first⟩ inserted, rfl⟩

/-- The catalog of a list of rules has one entry for each, in order, and no other. -/
theorem compileCatalog_eq_ok_iff {rules : List AssemblageRule} {catalog : Catalog} :
    compileCatalog rules = .ok catalog ↔
      List.Forall₂ AssemblageRule.Compiles rules catalog.entries := by
  have unfolded : compileCatalog rules = (do
      let parts ← eachIndexed (fun _ (a : AssemblageRule) => do
        let c ← a.compile
        .ok (c.1, a.contentTypes, c.2)) 0 rules
      .ok (parts.foldl (fun c p => c.insert p.1 p.2.1 p.2.2) .empty)) := rfl
  have part : ∀ (_ : Nat) (a : AssemblageRule) (p : Assemblage × List String × List Resource),
      (do let c ← a.compile; .ok (c.1, a.contentTypes, c.2)) = Except.ok p ↔
        p.2.1 = a.contentTypes ∧ a.Compiles (.ofParts p) := by
    rintro _ a ⟨assemblage, types, resources⟩
    simp only [bind_eq_ok_iff, AssemblageRule.compile_eq_ok_iff, Except.ok.injEq, Prod.mk.injEq]
    constructor
    · rintro ⟨_, compiles, rfl, rfl, rfl⟩
      exact ⟨rfl, compiles⟩
    · rintro ⟨rfl, compiles⟩
      exact ⟨(assemblage, resources), compiles, rfl, rfl, rfl⟩
  simp only [unfolded, bind_eq_ok_iff, eachIndexed_eq_ok_iff part, Except.ok.injEq]
  constructor
  · rintro ⟨parts, compiled, rfl⟩
    rw [Catalog.entries_foldl_insert, Catalog.empty, List.nil_append, List.forall₂_map_right_iff]
    exact compiled.imp fun _ _ => And.right
  · intro compiled
    obtain ⟨parts, inserted, listed⟩ := exists_parts compiled
    refine ⟨parts, inserted, ?_⟩
    have entries := Catalog.entries_foldl_insert .empty parts
    rw [listed, Catalog.empty, List.nil_append] at entries
    cases catalog
    exact congrArg Catalog.mk entries

end Transclusion
