import Transclusion.Message.Headers

/-!
# The trigger header

The header that names the sections to assemble. Its value is a comma-separated list of dotted
names, each optionally followed by attributes: `head, body.title;q=1`. Values of repeated headers
are read one after the other.

## Main results

`mem_distinct`, `nodup_distinctFrom`: the requested names are those of the entries, each once.
-/

namespace Transclusion

/-- One requested name with its attributes. -/
structure RequestedName where
  name : String
  attributes : List (String × String)
deriving DecidableEq, Repr

namespace RequestedName

/-- Read one attribute, `key=value` or a bare key; a blank one is skipped. -/
def attribute? (text : String) : Option (String × String) :=
  let text := Text.trim text
  if text = "" then none
  else match Text.cutAt '=' text with
    | some (key, value) => some (Text.trim key, Text.trim value)
    | none => some (text, "")

/-- Read one entry of the list; an entry without a name is skipped. -/
def parse? (entry : String) : Option RequestedName :=
  match Text.splitOn ';' entry with
  | [] => none
  | name :: attributes =>
    let name := Text.trim name
    if name = "" then none else some ⟨name, attributes.filterMap attribute?⟩

/-- Read every value of the header `trigger`, in order. -/
def decode (headers : Headers) (trigger : String) : List RequestedName :=
  ((headers.getAll trigger).flatMap (Text.splitOn ',')).filterMap parse?

end RequestedName

/-- The members of a list that are not in `seen`, each at its first position only. -/
def distinctFrom {α : Type} [DecidableEq α] (seen : List α) : List α → List α
  | [] => []
  | x :: xs => if x ∈ seen then distinctFrom seen xs else x :: distinctFrom (x :: seen) xs

/-- The members of a list without repetitions, each at its first position. -/
def distinct {α : Type} [DecidableEq α] (xs : List α) : List α := distinctFrom [] xs

/-- The distinct names requested by the header `trigger`, in the order they are first seen. -/
def requestedNames (headers : Headers) (trigger : String) : List String :=
  distinct ((RequestedName.decode headers trigger).map (·.name))

theorem mem_distinctFrom {α : Type} [DecidableEq α] {seen xs : List α} {y : α} :
    y ∈ distinctFrom seen xs ↔ y ∈ xs ∧ y ∉ seen := by
  induction xs generalizing seen with
  | nil => simp [distinctFrom]
  | cons x xs ih =>
    unfold distinctFrom
    split
    · rename_i h
      rw [ih]
      grind
    · rename_i h
      rw [List.mem_cons, ih]
      grind

theorem mem_distinct {α : Type} [DecidableEq α] {xs : List α} {y : α} :
    y ∈ distinct xs ↔ y ∈ xs := by
  simp [distinct, mem_distinctFrom]

theorem nodup_distinctFrom {α : Type} [DecidableEq α] (seen xs : List α) :
    (distinctFrom seen xs).Nodup := by
  induction xs generalizing seen with
  | nil => simp [distinctFrom]
  | cons x xs ih =>
    unfold distinctFrom
    split
    · exact ih seen
    · exact List.nodup_cons.2 ⟨by simp [mem_distinctFrom], ih (x :: seen)⟩

theorem distinctFrom_eq_self {α : Type} [DecidableEq α] {seen xs : List α} (once : xs.Nodup)
    (fresh : ∀ x ∈ xs, x ∉ seen) : distinctFrom seen xs = xs := by
  induction xs generalizing seen with
  | nil => rfl
  | cons x xs ih =>
    obtain ⟨single, once⟩ := List.nodup_cons.1 once
    rw [distinctFrom, if_neg (fresh x List.mem_cons_self), ih once]
    intro y member among
    rcases List.mem_cons.1 among with rfl | before
    · exact single member
    · exact fresh y (List.mem_cons_of_mem _ member) before

end Transclusion
