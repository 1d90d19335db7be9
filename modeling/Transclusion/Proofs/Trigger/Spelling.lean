import Transclusion.Proofs.Text.Pieces
import Transclusion.Proofs.Trigger

/-!
# Spelling a trigger header

The entries of a trigger header can be written in many ways: with blanks around names, keys and
values, with entries and attributes between them that say nothing, and spread over several headers
of the same name. However it is done, the entries are read back as they are.

## Main results

`decode_of_spells`: a header gives the entries that it spells, and each of their names once.
-/

namespace Transclusion

/-! ### Names in the order of their first places -/

section

variable {α : Type} [DecidableEq α]

/-- Whether a list has the members of another one, each once, in the order of their first places. -/
structure FirstSeen (xs ys : List α) : Prop where
  members : ∀ y, y ∈ ys ↔ y ∈ xs
  inOrder : ys.Pairwise fun y z => xs.idxOf y < xs.idxOf z

theorem pairwise_distinctFrom (seen xs : List α) :
    (distinctFrom seen xs).Pairwise fun y z => xs.idxOf y < xs.idxOf z := by
  induction xs generalizing seen with
  | nil => exact .nil
  | cons x xs ih =>
    -- All members but the first keep their places and stand one further to the right.
    have shifted : ∀ seen, x ∈ seen → (distinctFrom seen xs).Pairwise
        fun y z => (x :: xs).idxOf y < (x :: xs).idxOf z := by
      intro seen known
      refine (ih seen).imp_of_mem fun {y z} member member' before => ?_
      have other : x ≠ y := fun same => (mem_distinctFrom.1 member).2 (same ▸ known)
      have other' : x ≠ z := fun same => (mem_distinctFrom.1 member').2 (same ▸ known)
      rw [List.idxOf_cons_ne _ other, List.idxOf_cons_ne _ other']
      exact Nat.succ_lt_succ before
    unfold distinctFrom
    split
    next known => exact shifted seen known
    next =>
      refine .cons (fun z member => ?_) (shifted (x :: seen) List.mem_cons_self)
      have other : x ≠ z := fun same => (mem_distinctFrom.1 member).2 (same ▸ List.mem_cons_self)
      rw [List.idxOf_cons_self, List.idxOf_cons_ne _ other]
      exact Nat.succ_pos _

theorem firstSeen_distinct (xs : List α) : FirstSeen xs (distinct xs) :=
  ⟨fun _ => mem_distinct, pairwise_distinctFrom [] xs⟩

end

namespace RequestedName

/-! ### Attributes -/

structure IsAttribute (a : String × String) : Prop where
  nonempty : a.1 ≠ ""
  keyTrimmed : Text.trim a.1 = a.1
  keyFree : ',' ∉ a.1.toList ∧ ';' ∉ a.1.toList ∧ '=' ∉ a.1.toList
  valueTrimmed : Text.trim a.2 = a.2
  valueFree : ',' ∉ a.2.toList ∧ ';' ∉ a.2.toList

/-- Whether a list of characters is a text with blanks around it. -/
def Spaced (cs : List Char) (s : String) : Prop :=
  ∃ before after, (∀ c ∈ before ++ after, Text.isBlank c = true) ∧
    cs = before ++ s.toList ++ after

/-- How an attribute is written, and what stands for none. -/
inductive SpellsAttribute : List Char → Option (String × String) → Prop where
  | pair {k v : List Char} {key value : String} (spacedKey : Spaced k key)
      (spacedValue : Spaced v value) : SpellsAttribute (k ++ '=' :: v) (some (key, value))
  | bare {k : List Char} {key : String} (spacedKey : Spaced k key) :
      SpellsAttribute k (some (key, ""))
  | nothing {blanks : List Char} (blank : ∀ c ∈ blanks, Text.isBlank c = true) :
      SpellsAttribute blanks none

theorem Spaced.trimChars {cs : List Char} {s : String} (spaced : Spaced cs s)
    (trimmed : Text.trim s = s) : Text.trimChars cs = s.toList := by
  obtain ⟨before, after, blank, rfl⟩ := spaced
  have whole := trim_between trimmed blank
  rwa [← String.toList_inj, Text.toList_trim, String.toList_ofList] at whole

theorem Spaced.not_mem {cs : List Char} {s : String} {sign : Char} (spaced : Spaced cs s)
    (visible : Text.isBlank sign = false) (free : sign ∉ s.toList) : sign ∉ cs := by
  obtain ⟨before, after, blank, rfl⟩ := spaced
  have blanks := List.forall_mem_append.1 blank
  simp [free, not_mem_of_blank blanks.1 visible, not_mem_of_blank blanks.2 visible]

theorem attribute?_of_spells {text : List Char} {spelled : Option (String × String)}
    (spells : SpellsAttribute text spelled) (proper : ∀ a, spelled = some a → IsAttribute a) :
    attribute? (String.ofList text) = spelled := by
  have visible : Text.isBlank '=' = false := by decide
  cases spells with
  | nothing blank =>
    have spaced : Spaced text "" := ⟨text, [], by simpa using blank, by simp⟩
    simp [attribute?, Text.trim, spaced.trimChars rfl]
  | bare spaced =>
    obtain ⟨nonempty, trimmed, free, -, -⟩ := proper _ rfl
    simp [attribute?, Text.trim, spaced.trimChars trimmed, nonempty, Text.cutAt,
      Text.cutChars_of_not_mem free.2.2]
  | @pair k v key value spacedKey spacedValue =>
    obtain ⟨nonempty, keyTrimmed, free, valueTrimmed, -⟩ := proper _ rfl
    have noEquals : '=' ∉ k.dropWhile Text.isBlank := by
      rw [Text.mem_dropWhile_isBlank visible]
      exact spacedKey.not_mem visible free.2.2
    have cut := Text.cutChars_append noEquals (Text.dropEndWhile Text.isBlank v)
    -- The blanks between a key and the equals sign are still there when the text is cut.
    simp [attribute?, Text.trim, Text.trimChars_append_cons visible, Text.cutAt, cut,
      Text.trimChars_dropWhile, Text.trimChars_dropEndWhile, spacedKey.trimChars keyTrimmed,
      spacedValue.trimChars valueTrimmed]

theorem SpellsAttribute.free {text : List Char} {spelled : Option (String × String)}
    (spells : SpellsAttribute text spelled) (proper : ∀ a, spelled = some a → IsAttribute a) :
    ',' ∉ text ∧ ';' ∉ text := by
  have comma : Text.isBlank ',' = false := by decide
  have semicolon : Text.isBlank ';' = false := by decide
  cases spells with
  | nothing blank => exact ⟨not_mem_of_blank blank comma, not_mem_of_blank blank semicolon⟩
  | bare spaced =>
    have free := (proper _ rfl).keyFree
    exact ⟨spaced.not_mem comma free.1, spaced.not_mem semicolon free.2.1⟩
  | pair spacedKey spacedValue =>
    have keyFree := (proper _ rfl).keyFree
    have valueFree := (proper _ rfl).valueFree
    simp [spacedKey.not_mem comma keyFree.1, spacedKey.not_mem semicolon keyFree.2.1,
      spacedValue.not_mem comma valueFree.1, spacedValue.not_mem semicolon valueFree.2]

/-! ### Entries -/

structure IsEntry (entry : RequestedName) : Prop where
  name : IsName entry.name
  attributes : ∀ a ∈ entry.attributes, IsAttribute a

/-- How an entry is written, and what stands for none: without a name, attributes say nothing. -/
inductive SpellsEntry : List Char → Option RequestedName → Prop where
  | entry {n : List Char} {name : String} {parts : List (List Char × Option (String × String))}
      (spaced : Spaced n name) (spelled : ∀ part ∈ parts, SpellsAttribute part.1 part.2) :
      SpellsEntry (List.intercalate [';'] (n :: parts.map (·.1)))
        (some ⟨name, parts.filterMap (·.2)⟩)
  | nothing {blanks tail : List Char} (blank : ∀ c ∈ blanks, Text.isBlank c = true)
      (isTail : IsTail tail) : SpellsEntry (blanks ++ tail) none

/-- A header value spells the entries of its pieces, in their order. -/
def SpellsValue (value : String) (entries : List RequestedName) : Prop :=
  ∃ pieces : List (List Char × Option RequestedName),
    (∀ piece ∈ pieces, SpellsEntry piece.1 piece.2) ∧
    value.toList = List.intercalate [','] (pieces.map (·.1)) ∧ entries = pieces.filterMap (·.2)

/-- Headers spell the entries of all values of the trigger, in their order. -/
inductive Spells (trigger : String) : List (String × String) → List RequestedName → Prop where
  | none : Spells trigger [] []
  | other {name value : String} {headers : List (String × String)} {entries : List RequestedName}
      (named : Text.sameIgnoringCase name trigger = false) (rest : Spells trigger headers entries) :
      Spells trigger ((name, value) :: headers) entries
  | value {name value : String} {headers : List (String × String)}
      {here entries : List RequestedName} (named : Text.sameIgnoringCase name trigger = true)
      (spelled : SpellsValue value here) (rest : Spells trigger headers entries) :
      Spells trigger ((name, value) :: headers) (here ++ entries)

variable {text : List Char} {entry : Option RequestedName}

theorem parse?_of_spells (spells : SpellsEntry text entry)
    (proper : ∀ e, entry = some e → IsEntry e) : parse? (String.ofList text) = entry := by
  cases spells with
  | nothing blank isTail =>
    have nameless := name?_of_requests (.nothing blank isTail) (by simp)
    simpa using nameless
  | @entry n name parts spaced spelled =>
    obtain ⟨named, attributes⟩ := proper _ rfl
    have written : ∀ part ∈ parts, ∀ a, part.2 = some a → IsAttribute a :=
      fun part member a is => attributes a (List.mem_filterMap.2 ⟨part, member, is⟩)
    have free : ∀ piece ∈ n :: parts.map (·.1), ';' ∉ piece := by
      rw [List.forall_mem_cons]
      refine ⟨spaced.not_mem (by decide) named.noSemicolon, ?_⟩
      simp only [List.forall_mem_map]
      exact fun part member => ((spelled part member).free (written part member)).2
    have read : parts.filterMap (fun part => attribute? (String.ofList part.1)) =
        parts.filterMap (·.2) :=
      List.filterMap_congr fun part member =>
        attribute?_of_spells (spelled part member) (written part member)
    have split := Text.splitChars_intercalate (List.cons_ne_nil n _) free
    simp [parse?, Text.splitOn, split, Text.trim, spaced.trimChars named.trimmed, named.nonempty,
      List.filterMap_map, Function.comp_def, read]

theorem SpellsEntry.noComma (spells : SpellsEntry text entry)
    (proper : ∀ e, entry = some e → IsEntry e) : ',' ∉ text := by
  have visible : Text.isBlank ',' = false := by decide
  cases spells with
  | nothing blank isTail => simp [not_mem_of_blank blank visible, isTail.1]
  | @entry n name parts spaced spelled =>
    obtain ⟨named, attributes⟩ := proper _ rfl
    intro member
    rcases Text.of_mem_intercalate member with semicolon | ⟨piece, listed, inside⟩
    · exact absurd semicolon (by decide)
    · rcases List.mem_cons.1 listed with rfl | listed
      · exact spaced.not_mem visible named.noComma inside
      · obtain ⟨part, among, rfl⟩ := List.mem_map.1 listed
        refine ((spelled part among).free ?_).1 inside
        exact fun a is => attributes a (List.mem_filterMap.2 ⟨part, among, is⟩)

/-! ### Headers -/

theorem entries_of_spells {value : String} {entries : List RequestedName}
    (spells : SpellsValue value entries) (proper : ∀ entry ∈ entries, IsEntry entry) :
    (Text.splitOn ',' value).filterMap parse? = entries := by
  obtain ⟨pieces, spelled, written, rfl⟩ := spells
  have each : ∀ piece ∈ pieces, ∀ e, piece.2 = some e → IsEntry e :=
    fun piece member e is => proper e (List.mem_filterMap.2 ⟨piece, member, is⟩)
  cases pieces with
  | nil =>
    -- An empty value is a single entry that says nothing.
    simp [Text.splitOn, written, Text.splitChars, parse?, Text.trim, Text.trimChars,
      Text.dropEndWhile]
  | cons piece pieces =>
    have free : ∀ text ∈ (piece :: pieces).map (·.1), ',' ∉ text := by
      simp only [List.forall_mem_map]
      exact fun piece member => (spelled piece member).noComma (each piece member)
    have nonempty : (piece :: pieces).map (·.1) ≠ [] := by simp
    rw [Text.splitOn, written, Text.splitChars_intercalate nonempty free, List.map_map,
      List.filterMap_map]
    exact List.filterMap_congr fun piece member =>
      parse?_of_spells (spelled piece member) (each piece member)

/-- Entries are read back from the headers that spell them, in whatever way they do, and the names
that are requested are theirs, each at its first place. -/
theorem decode_of_spells {trigger : String} {headers : Headers} {entries : List RequestedName}
    (spells : Spells trigger headers.toList entries) (proper : ∀ entry ∈ entries, IsEntry entry) :
    decode headers trigger = entries ∧
      FirstSeen (entries.map (·.name)) (requestedNames headers trigger) := by
  have decoded : decode headers trigger = entries := by
    unfold decode Headers.getAll
    generalize headers.toList = listed at spells
    induction spells with
    | none => rfl
    | other named rest ih => simpa [Headers.isNamed, named] using ih proper
    | value named spelled rest ih =>
      obtain ⟨properHere, properRest⟩ := List.forall_mem_append.1 proper
      simp [Headers.isNamed, named, entries_of_spells spelled properHere, ← ih properRest]
  refine ⟨decoded, ?_⟩
  rw [requestedNames, decoded]
  exact firstSeen_distinct _

/-- Two headers of the trigger with another one between them. -/
def scattered : Headers :=
  .ofList [("X-Filter", " head ,,body.title; q = a=b;;flag ;to="), ("Accept", "a,b"),
    ("x-FILTER", " ;x=1,head")]

def titled : RequestedName := ⟨"body.title", [("q", "a=b"), ("flag", ""), ("to", "")]⟩

theorem spells_scattered :
    Spells "x-filter" scattered.toList [⟨"head", []⟩, titled, ⟨"head", []⟩] := by
  have plain : ∀ s : String, Spaced s.toList s := fun s => ⟨[], [], by simp, by simp⟩
  have head : ∀ n, Spaced n "head" → SpellsEntry n (some ⟨"head", []⟩) := by
    intro n spaced
    simpa using @SpellsEntry.entry n "head" [] spaced (by simp)
  have attributes : ∀ part ∈ [(" q = a=b".toList, some ("q", "a=b")), ([], none),
      ("flag ".toList, some ("flag", "")), ("to=".toList, some ("to", ""))],
      SpellsAttribute part.1 part.2 := by
    simp only [List.forall_mem_cons, List.not_mem_nil, false_imp_iff, implies_true, and_true]
    refine ⟨?_, .nothing (by simp), .bare ⟨[], [' '], List.all_eq_true.1 (by decide), by decide⟩, ?_⟩
    · exact .pair (k := " q ".toList) (v := " a=b".toList)
        ⟨[' '], [' '], List.all_eq_true.1 (by decide), by decide⟩
        ⟨[' '], [], List.all_eq_true.1 (by decide), by decide⟩
    · exact .pair (k := "to".toList) (v := []) (plain "to") (plain "")
  have first : SpellsValue " head ,,body.title; q = a=b;;flag ;to=" [⟨"head", []⟩, titled] := by
    refine ⟨[(" head ".toList, some ⟨"head", []⟩), ([], none),
      ("body.title; q = a=b;;flag ;to=".toList, some titled)], ?_, by decide, rfl⟩
    simp only [List.forall_mem_cons, List.not_mem_nil, false_imp_iff, implies_true, and_true]
    refine ⟨head _ ⟨[' '], [' '], List.all_eq_true.1 (by decide), by decide⟩, ?_, ?_⟩
    · exact @SpellsEntry.nothing [] [] (by simp) ⟨by simp, by simp⟩
    · exact .entry (plain "body.title") attributes
  have second : SpellsValue " ;x=1,head" [⟨"head", []⟩] := by
    refine ⟨[(" ;x=1".toList, none), ("head".toList, some ⟨"head", []⟩)], ?_, by decide, rfl⟩
    simp only [List.forall_mem_cons, List.not_mem_nil, false_imp_iff, implies_true, and_true]
    refine ⟨?_, head _ (plain "head")⟩
    exact @SpellsEntry.nothing [' '] ";x=1".toList (by simp; rfl) ⟨by simp, by simp⟩
  exact .value (by decide) first (.other (by decide) (.value (by decide) second .none))

theorem decode_of_spells_scattered :
    decode scattered "x-filter" = [⟨"head", []⟩, titled, ⟨"head", []⟩] ∧
      FirstSeen ["head", "body.title", "head"] (requestedNames scattered "x-filter") := by
  have head : IsEntry ⟨"head", []⟩ := ⟨⟨by decide, by decide, by decide, by decide⟩, by simp⟩
  have title : IsEntry titled := by
    refine ⟨⟨by decide, by decide, by decide, by decide⟩, ?_⟩
    simp only [titled, List.forall_mem_cons, List.not_mem_nil, false_imp_iff, implies_true, and_true]
    refine ⟨?_, ?_, ?_⟩ <;> constructor <;> decide
  exact decode_of_spells spells_scattered (by simp [head, title])

end RequestedName

end Transclusion
