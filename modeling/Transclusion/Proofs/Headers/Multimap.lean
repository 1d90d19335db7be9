import Transclusion.Proofs.Headers

/-!
# Headers as a multimap

The entries of all names are mixed in one list, each under its name as it was written. What they
amount to is a list of values for each name in lower case. Adding, replacing and removing values of
a name changes the list of that name and leaves the entries of all others where they are.

## Main results

`Headers.multimap_run`: after any changes, headers are the multimap that the same changes lead to.
-/

namespace Transclusion

/-! ### Multimaps -/

/-- Lists of values by key, of which finitely many are not empty. -/
structure Multimap (α β : Type) where
  values : α → List β
  keys : Finset α
  complete : ∀ key, key ∉ keys → values key = []

namespace Multimap

variable {α β : Type}

def empty : Multimap α β :=
  ⟨fun _ => [], ∅, fun _ _ => rfl⟩

/-- The number of values of all keys together. -/
def total (m : Multimap α β) : Nat :=
  ∑ key ∈ m.keys, (m.values key).length

variable [DecidableEq α]

/-- A multimap with other values for one key. -/
def put (m : Multimap α β) (key : α) (values : List β) : Multimap α β where
  values := Function.update m.values key values
  keys := insert key m.keys
  complete := by
    intro other absent
    rw [Finset.mem_insert, not_or] at absent
    rw [Function.update_of_ne absent.1, m.complete other absent.2]

def append (m : Multimap α β) (key : α) (value : β) : Multimap α β :=
  m.put key (m.values key ++ [value])

def set (m : Multimap α β) (key : α) (value : β) : Multimap α β :=
  m.put key [value]

def remove (m : Multimap α β) (key : α) : Multimap α β :=
  m.put key []

theorem values_put (m : Multimap α β) (key other : α) (values : List β) :
    (m.put key values).values other = if other = key then values else m.values other :=
  Function.update_apply m.values key values other

end Multimap

/-! ### Names -/

/-- The name of a header in lower case. -/
structure HeaderName where
  text : String
  lower_text : Text.lower text = text
deriving DecidableEq

namespace HeaderName

def of (s : String) : HeaderName :=
  ⟨Text.lower s, Text.lower_lower s⟩

theorem of_eq_iff {a b : String} : of a = of b ↔ Text.lower a = Text.lower b := by
  simp [of]

theorem of_text (name : HeaderName) : of name.text = name := by
  simp [of, name.lower_text]

end HeaderName

namespace Headers

variable {h : Headers} {m : Multimap HeaderName String}

/-! ### Changes -/

/-- A change of the values of one name. -/
inductive Change where
  | append (name value : String)
  | set (name value : String)
  | remove (name : String)

namespace Change

def name : Change → String
  | append name _ => name
  | set name _ => name
  | remove name => name

def apply (h : Headers) : Change → Headers
  | append name value => h.append name value
  | set name value => h.set name value
  | remove name => (h.remove name).1

/-- The same change, made to a multimap. -/
def act (m : Multimap HeaderName String) : Change → Multimap HeaderName String
  | append name value => m.append (.of name) value
  | set name value => m.set (.of name) value
  | remove name => m.remove (.of name)

end Change

/-- The headers after a sequence of changes. -/
def run (h : Headers) (changes : List Change) : Headers :=
  changes.foldl Change.apply h

/-- What a list of entries amounts to: each value is added under its name. -/
def multimap (h : Headers) : Multimap HeaderName String :=
  h.toList.foldl (fun m entry => m.append (.of entry.1) entry.2) .empty

/-- The entries of all names but one, in their order. -/
def others (h : Headers) (name : String) : List (String × String) :=
  h.toList.filter fun entry => Text.lower entry.1 != Text.lower name

/-! ### Values of one name -/

theorem isNamed_eq (name : String) :
    isNamed name = fun entry => decide (HeaderName.of entry.1 = .of name) := by
  funext entry
  rw [isNamed, Text.sameIgnoringCase, beq_eq_decide, decide_eq_decide, HeaderName.of_eq_iff]

theorem getAll_congr {name other : String} (same : HeaderName.of name = .of other) (h : Headers) :
    h.getAll name = h.getAll other := by
  simp [getAll, isNamed_eq, same]

theorem getAll_append (h : Headers) (name other value : String) :
    (h.append name value).getAll other =
      if HeaderName.of other = .of name then h.getAll other ++ [value] else h.getAll other := by
  split
  next same => rw [getAll_congr same, getAll_append_self, getAll_congr same]
  next differ =>
    apply getAll_append_other
    rw [HeaderName.of_eq_iff] at differ
    simpa [Text.sameIgnoringCase] using Ne.symm differ

theorem getAll_erase (h : Headers) (name other : String) :
    (h.erase name).getAll other =
      if HeaderName.of other = .of name then [] else h.getAll other := by
  split
  next same => rw [getAll_congr same, getAll_erase_self]
  next differ =>
    apply getAll_erase_other
    rw [HeaderName.of_eq_iff] at differ
    simpa [Text.sameIgnoringCase] using Ne.symm differ

theorem snd_remove (h : Headers) (name : String) :
    (h.remove name).2 = (h.getAll name).length := by
  -- What is left and what is dropped make up the whole.
  have parts := List.length_eq_length_filter_add (isNamed name) (l := h.toList)
  simp only [remove, erase, getAll, List.length_map]
  omega

/-- A change leaves the entries of all other names as they are. -/
theorem others_apply (h : Headers) (change : Change) :
    (change.apply h).others change.name = h.others change.name := by
  cases change with
  | append name value => simp [others, Change.apply, Change.name, append]
  | set name value =>
    simp [others, Change.apply, Change.name, set, append, erase, isNamed, Text.sameIgnoringCase,
      bne]
  | remove name =>
    simp [others, Change.apply, Change.name, remove, erase, isNamed, Text.sameIgnoringCase, bne]

/-! ### Representation -/

/-- Whether a multimap has the values of each name. -/
def Represents (h : Headers) (m : Multimap HeaderName String) : Prop :=
  ∀ name, h.getAll name = m.values (.of name)

theorem Represents.apply (represents : Represents h m) (change : Change) :
    Represents (change.apply h) (change.act m) := by
  intro other
  have before := represents other
  cases change with
  | append name value =>
    rw [Change.apply, Change.act, getAll_append, Multimap.append, Multimap.values_put, before]
    split
    next same => rw [same]
    next => rfl
  | set name value =>
    rw [Change.apply, Change.act, set, getAll_append, getAll_erase, Multimap.set,
      Multimap.values_put, before]
    split <;> rfl
  | remove name =>
    rw [Change.apply, Change.act, remove, getAll_erase, Multimap.remove, Multimap.values_put,
      before]

theorem Represents.run (represents : Represents h m) (changes : List Change) :
    Represents (h.run changes) (changes.foldl Change.act m) := by
  induction changes generalizing h m with
  | nil => exact represents
  | cons change changes ih => exact ih (represents.apply change)

/-- A list of entries is what comes of adding them one after the other. -/
theorem run_append_empty (h : Headers) :
    empty.run (h.toList.map fun entry => .append entry.1 entry.2) = h := by
  have added : ∀ (entries : List (String × String)) (g : Headers),
      g.run (entries.map fun entry => .append entry.1 entry.2) = ⟨g.toList ++ entries⟩ := by
    intro entries
    induction entries with
    | nil => simp [run]
    | cons entry entries ih =>
      intro g
      simpa [run, Change.apply, append] using ih (g.append entry.1 entry.2)
  exact added h.toList empty

theorem represents_multimap (h : Headers) : Represents h h.multimap := by
  -- No headers are no values, and everything else has been added to them.
  have nothing : Represents empty .empty := fun _ => rfl
  have added := nothing.run (h.toList.map fun entry => .append entry.1 entry.2)
  rw [run_append_empty, List.foldl_map] at added
  exact added

/-- The keys of the entries, each as often as it has values. -/
def keys (h : Headers) : Multiset HeaderName :=
  h.toList.map fun entry => HeaderName.of entry.1

theorem count_keys (h : Headers) (key : HeaderName) :
    h.keys.count key = (h.getAll key.text).length := by
  rw [keys, Multiset.coe_count, List.count_eq_length_filter, List.filter_map, List.length_map,
    getAll, List.length_map, isNamed_eq, HeaderName.of_text]
  rfl

theorem Represents.size_eq (represents : Represents h m) : h.size = m.total := by
  -- The entries are counted key by key, and no key of an entry is missing in the multimap.
  have counted (key : HeaderName) : h.keys.count key = (m.values key).length := by
    rw [count_keys, represents, HeaderName.of_text]
  have known : ∀ key ∈ h.keys, key ∈ m.keys := by
    intro key member
    by_contra absent
    have uncounted := counted key
    rw [m.complete key absent, List.length_nil, Multiset.count_eq_zero] at uncounted
    exact uncounted member
  calc h.size = h.keys.card := by simp [size, keys]
    _ = ∑ key ∈ m.keys, h.keys.count key := (Multiset.sum_count_eq_card known).symm
    _ = m.total := by simp only [counted, Multimap.total]

/-! ### Everything that is read -/

/-- Whether everything that is read off headers is as in a multimap, and changes keep to the entries
of their names. -/
structure IsMultimap (h : Headers) (m : Multimap HeaderName String) : Prop where
  getAll : ∀ name, h.getAll name = m.values (.of name)
  get? : ∀ name, h.get? name = (m.values (.of name)).head?
  contains : ∀ name, h.contains name = true ↔ m.values (.of name) ≠ []
  removed : ∀ name, (h.remove name).2 = (m.values (.of name)).length
  size : h.size = m.total
  others : ∀ change : Change, (change.apply h).others change.name = h.others change.name

/-- After any changes, headers are the multimap that the same changes lead to. -/
theorem multimap_run (h : Headers) (changes : List Change) :
    IsMultimap (h.run changes) (changes.foldl Change.act h.multimap) := by
  have represents := (represents_multimap h).run changes
  refine ⟨represents, fun name => ?_, fun name => ?_, fun name => ?_, represents.size_eq,
    others_apply _⟩
  · rw [get?_eq_head?_getAll, represents]
  · rw [← Bool.not_eq_false, contains_eq_false_iff, represents]
  · rw [snd_remove, represents]

end Headers

end Transclusion
