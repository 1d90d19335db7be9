import Transclusion.Text.Split

/-!
# Headers

An ordered list of named values. Names are compared without regard to the case of ASCII letters; the
order of insertion is kept, and a name may carry several values.
-/

namespace Transclusion

/-- Named values in the order they were added. -/
structure Headers where
  toList : List (String × String)
deriving DecidableEq, Repr, Inhabited

namespace Headers

/-- Whether an entry carries the header `name`. -/
def isNamed (name : String) (entry : String × String) : Bool :=
  Text.sameIgnoringCase entry.1 name

def empty : Headers := ⟨[]⟩

def ofList (entries : List (String × String)) : Headers := ⟨entries⟩

/-- Add a value at the end; values already there under the same name stay. -/
def append (h : Headers) (name value : String) : Headers :=
  ⟨h.toList ++ [(name, value)]⟩

/-- The headers without the values of `name`. -/
def erase (h : Headers) (name : String) : Headers :=
  ⟨h.toList.filter fun entry => !isNamed name entry⟩

/-- Drop every value of `name`, and tell how many there were. -/
def remove (h : Headers) (name : String) : Headers × Nat :=
  (h.erase name, h.toList.length - (h.erase name).toList.length)

/-- Replace every value of `name` by one value, which goes to the end. -/
def set (h : Headers) (name value : String) : Headers :=
  (h.erase name).append name value

def get? (h : Headers) (name : String) : Option String :=
  (h.toList.find? (isNamed name)).map (·.2)

/-- All values of `name`, in the order they were added. -/
def getAll (h : Headers) (name : String) : List String :=
  (h.toList.filter (isNamed name)).map (·.2)

def contains (h : Headers) (name : String) : Bool :=
  (h.get? name).isSome

/-- The number of values of all names together. -/
def size (h : Headers) : Nat := h.toList.length

def isEmpty (h : Headers) : Bool := h.toList.isEmpty

theorem get?_eq_head?_getAll (h : Headers) (name : String) :
    h.get? name = (h.getAll name).head? := by
  simp [get?, getAll, List.head?_map, List.head?_filter]

theorem getAll_append_self (h : Headers) (name value : String) :
    (h.append name value).getAll name = h.getAll name ++ [value] := by
  simp [getAll, append, List.filter_append, isNamed, Text.sameIgnoringCase]

/-- Names that differ in more than the case of letters share no entry. -/
theorem isNamed_false_of_isNamed {name other : String}
    (h : Text.sameIgnoringCase name other = false) {entry : String × String}
    (he : isNamed name entry = true) : isNamed other entry = false := by
  simp_all [isNamed, Text.sameIgnoringCase]

theorem getAll_append_other {name other : String} (h : Text.sameIgnoringCase name other = false)
    (hs : Headers) (value : String) : (hs.append name value).getAll other = hs.getAll other := by
  have he : isNamed other (name, value) = false := h
  simp [getAll, append, List.filter_append, he]

theorem getAll_erase_other {name other : String} (h : Text.sameIgnoringCase name other = false)
    (hs : Headers) : (hs.erase name).getAll other = hs.getAll other := by
  have key : ∀ e, (isNamed other e && !isNamed name e) = isNamed other e := by
    intro e
    cases hn : isNamed name e with
    | false => simp
    | true => simp [isNamed_false_of_isNamed h hn]
  simp [getAll, erase, List.filter_filter, key]

theorem sameIgnoringCase_of_mem_erase {h : Headers} {name : String} {entry : String × String}
    (member : entry ∈ (h.erase name).toList) : Text.sameIgnoringCase entry.1 name = false := by
  have named := (List.mem_filter.1 member).2
  rwa [Bool.not_eq_true'] at named

theorem getAll_erase_self (h : Headers) (name : String) : (h.erase name).getAll name = [] := by
  simp [getAll, erase, List.filter_filter]

end Headers

end Transclusion
