import Transclusion.Message.Body

/-!
# Where a bounded read ends

A bounded read of a stream ends at the first item that is a fault or that brings the bytes taken so
far above the limit. It takes no item after that one. What it has taken is handed back as one chunk,
in front of the fault or of the items that were not taken, so no byte is lost and none comes twice.

## Main results

`readBounded_eq_iff_reads`: the rules by which a bounded read ends, and that there are no others.
-/

namespace Transclusion

namespace Item

def bytes : Item → Bytes
  | chunk bytes => bytes
  | fault _ => []

def IsFault (item : Item) : Prop := ∃ f, item = fault f

end Item

namespace Source

variable {limit : Nat} {its : List Item} {i j : Nat}

def bytesOf (its : List Item) : Bytes := its.flatMap Item.bytes

theorem bytesOf_append (xs ys : List Item) : bytesOf (xs ++ ys) = bytesOf xs ++ bytesOf ys :=
  List.flatMap_append

theorem bytesOf_concat_chunk (xs : List Item) (bytes : Bytes) :
    bytesOf (xs ++ [.chunk bytes]) = bytesOf xs ++ bytes := by
  rw [bytesOf_append]
  simp [bytesOf, Item.bytes]

/-- Whether a read that has taken the items before position `j` has to end with the one there. -/
def EndsAt (limit : Nat) (its : List Item) (j : Nat) : Prop :=
  ∃ item, its[j]? = some item ∧ (item.IsFault ∨ limit < (bytesOf (its.take (j + 1))).length)

def FirstEnd (limit : Nat) (its : List Item) (j : Nat) : Prop :=
  EndsAt limit its j ∧ ∀ i < j, ¬ EndsAt limit its i

theorem FirstEnd.unique (first : FirstEnd limit its i) (second : FirstEnd limit its j) : i = j := by
  apply Nat.le_antisymm
  · exact Nat.le_of_not_lt fun before => first.2 j before second.1
  · exact Nat.le_of_not_lt fun before => second.2 i before first.1

/-- How a bounded read of a source ends, with the number of the items that it takes. -/
inductive Reads (limit : Nat) : Source → BoundedRead × Nat → Prop where
  | short {bytes : Bytes} (fits : bytes.length ≤ limit) :
      Reads limit (buffered bytes) (.complete bytes, 0)
  | long {bytes : Bytes} (exceeds : limit < bytes.length) :
      Reads limit (buffered bytes) (.exceeded (buffered bytes), 0)
  | through {its : List Item} (endless : ∀ j, ¬ EndsAt limit its j) :
      Reads limit (stream its) (.complete (bytesOf its), its.length)
  | broken {its : List Item} {j : Nat} {fault : ReadFault} (first : FirstEnd limit its j)
      (last : its[j]? = some (.fault fault)) :
      Reads limit (stream its)
        (.interrupted (stream [.chunk (bytesOf (its.take j)), .fault fault]) fault, j + 1)
  | crossed {its : List Item} {j : Nat} {bytes : Bytes} (first : FirstEnd limit its j)
      (last : its[j]? = some (.chunk bytes)) :
      Reads limit (stream its)
        (.exceeded (stream (.chunk (bytesOf (its.take (j + 1))) :: its.drop (j + 1))), j + 1)

theorem Reads.unique {source : Source} {result other : BoundedRead × Nat}
    (reads : Reads limit source result) (reads' : Reads limit source other) : result = other := by
  -- The first end is at one position, and what stands there is a fault or a chunk.
  cases reads with
  | short fits =>
    cases reads' with
    | short => rfl
    | long exceeds => exact absurd exceeds (Nat.not_lt.2 fits)
  | long exceeds =>
    cases reads' with
    | short fits => exact absurd exceeds (Nat.not_lt.2 fits)
    | long => rfl
  | through endless =>
    cases reads' with
    | through => rfl
    | broken first => exact absurd first.1 (endless _)
    | crossed first => exact absurd first.1 (endless _)
  | broken first last =>
    cases reads' with
    | through endless => exact absurd first.1 (endless _)
    | broken first' last' =>
      obtain rfl := first.unique first'
      cases last.symm.trans last'
      rfl
    | crossed first' last' =>
      obtain rfl := first.unique first'
      cases last.symm.trans last'
  | crossed first last =>
    cases reads' with
    | through endless => exact absurd first.1 (endless _)
    | broken first' last' =>
      obtain rfl := first.unique first'
      cases last.symm.trans last'
    | crossed first' =>
      obtain rfl := first.unique first'
      rfl

theorem reads_readItems (before rest : List Item)
    (passed : ∀ i < before.length, ¬ EndsAt limit (before ++ rest) i) :
    Reads limit (stream (before ++ rest))
      ((readItems limit (bytesOf before) rest).1,
        before.length + (readItems limit (bytesOf before) rest).2) := by
  -- What has been read is all of the items before, and none of them was an end.
  induction rest generalizing before with
  | nil =>
    rw [List.append_nil] at passed ⊢
    apply Reads.through
    intro j endsHere
    have inside : j < before.length := by
      obtain ⟨item, found, -⟩ := endsHere
      exact (List.getElem?_eq_some_iff.1 found).1
    exact passed j inside endsHere
  | cons item rest ih =>
    have here : (before ++ item :: rest)[before.length]? = some item := by simp
    have taken : (before ++ item :: rest).take before.length = before := by simp
    have takenHere : (before ++ item :: rest).take (before.length + 1) = before ++ [item] := by
      rw [List.append_cons]
      exact List.take_left' List.length_append
    cases item with
    | fault fault =>
      have first : FirstEnd limit (before ++ .fault fault :: rest) before.length :=
        ⟨⟨_, here, .inl ⟨fault, rfl⟩⟩, passed⟩
      have reads := Reads.broken first here
      rwa [taken] at reads
    | chunk bytes =>
      have total := bytesOf_concat_chunk before bytes
      by_cases exceeds : limit < (bytesOf before ++ bytes).length
      · have crosses : limit <
            (bytesOf ((before ++ .chunk bytes :: rest).take (before.length + 1))).length := by
          rwa [takenHere, total]
        have reads := Reads.crossed ⟨⟨_, here, .inr crosses⟩, passed⟩ here
        have left : (before ++ .chunk bytes :: rest).drop (before.length + 1) = rest := by
          rw [List.append_cons]
          exact List.drop_left' List.length_append
        rw [takenHere, total, left] at reads
        rwa [readItems, if_pos exceeds]
      · -- The chunk joins what has been read, and the read goes on behind it.
        have goesOn : ∀ i < (before ++ [Item.chunk bytes]).length,
            ¬ EndsAt limit (before ++ [.chunk bytes] ++ rest) i := by
          intro i inside
          rw [List.append_assoc, List.singleton_append]
          rw [List.length_append, List.length_singleton] at inside
          rcases Nat.lt_succ_iff_lt_or_eq.1 inside with earlier | rfl
          · exact passed i earlier
          · rintro ⟨item, found, fault | crosses⟩
            · obtain ⟨f, rfl⟩ := fault
              cases here.symm.trans found
            · rw [takenHere, total] at crosses
              exact exceeds crosses
        have reads := ih (before ++ [.chunk bytes]) goesOn
        rw [total, List.append_assoc, List.singleton_append, List.length_append,
          List.length_singleton, Nat.add_assoc, Nat.add_comm 1] at reads
        rwa [readItems, if_neg exceeds]

theorem reads_readBounded (limit : Nat) (source : Source) :
    Reads limit source (source.readBounded limit) := by
  cases source with
  | buffered bytes =>
    rw [readBounded]
    split
    next exceeds => exact .long exceeds
    next fits => exact .short (Nat.le_of_not_lt fits)
  | stream its =>
    have unended : ∀ i < ([] : List Item).length, ¬ EndsAt limit ([] ++ its) i := by
      intro i inside
      cases inside
    have reads := reads_readItems [] its unended
    rwa [List.nil_append, List.length_nil, Nat.zero_add] at reads

/-- A bounded read ends by the rules, whatever the limit and however the items are cut. -/
theorem readBounded_eq_iff_reads (limit : Nat) (source : Source) (result : BoundedRead × Nat) :
    source.readBounded limit = result ↔ Reads limit source result := by
  constructor
  · rintro rfl
    exact reads_readBounded limit source
  · exact (reads_readBounded limit source).unique

end Source

end Transclusion
