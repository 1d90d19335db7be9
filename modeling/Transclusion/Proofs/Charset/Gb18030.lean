import Mathlib.Data.List.Chain
import Mathlib.Tactic.SplitIfs
import Transclusion.Charset.Gb18030
import Transclusion.Proofs.Charset.Codec
import Transclusion.Proofs.Charset.DoubleByte

/-!
# Reading what has been written in gb18030 or GBK

A character that has lost its pointer to another one is still written by it, and read as the other
one, which has the same bytes. Characters of four bytes are read as they were.

## Main result

`Gb18030.follows`: what is read is written again as the same bytes.
-/

namespace Transclusion.Gb18030

variable {x : Char} {p : Nat} {isShort : Bool}

/-! ### Two bytes -/

theorem amended?_of_mem : ∀ a ∈ amendments,
    (amended? a.pointer).map (·.present) = some a.present := by
  decide

theorem pointer?_of_mem : ∀ a ∈ amendments, pointer? a.present = some a.pointer := by
  simp only [pointer?]
  decide

theorem present_of_mem : ∀ a ∈ amendments,
    a.pointer < grid.size ∧ ¬ a.present.toNat < 0x80 ∧ a.present ≠ '€' := by
  decide

/-- The pointer of a character is read as this character or as the one that took its place. -/
theorem exists_of_pointer? (several : ¬ x.toNat < 0x80) (long : ¬ (isShort ∧ x = '€'))
    (found : pointer? x = some p) :
    p < grid.size ∧ ∃ y, char? p = some y ∧ write? isShort y = some (grid.bytes p) := by
  have same := found
  unfold pointer? at found
  split at found
  next a amended =>
    -- Two characters have this pointer, and it is read as the present one.
    obtain rfl := Option.some.inj found
    have listed := List.mem_of_find?_eq_some amended
    obtain ⟨inside, wide, noEuro⟩ := present_of_mem a listed
    refine ⟨inside, a.present, ?_, ?_⟩
    · obtain ⟨b, isAmended, present⟩ := Option.map_eq_some_iff.1 (amended?_of_mem a listed)
      rw [char?, isAmended, ← present]
    · rw [write?, if_neg wide, if_neg (fun short => noEuro short.2), pointer?_of_mem a listed]
  next =>
    -- The index only gives pointers that no amendment has taken over.
    obtain ⟨admitted, char⟩ := Index.of_pointer? found
    simp only [Bool.and_eq_true, decide_eq_true_eq, Option.isNone_iff_eq_none] at admitted
    refine ⟨admitted.1, x, ?_, ?_⟩
    · rw [char?, admitted.2, char]
    · rw [write?, if_neg several, if_neg long, same]

theorem read_of_isSome {a : UInt8} (begins : (grid.rows.place? a).isSome = true) (rest : Bytes) :
    read a rest = readMore a rest := by
  obtain ⟨high, -⟩ := (Axis.isSome_block_iff (by decide)).1 begins
  have noEuro : a ≠ 0x80 := by
    rintro rfl
    exact absurd high (by decide)
  rw [read, if_neg (by omega), if_neg noEuro, if_pos begins]

theorem read_row (inside : p < grid.size) (found : char? p = some x) (rest : Bytes) :
    read (grid.row p) (grid.column p :: rest) = ([x], rest) := by
  -- No digit is the second byte of a pair.
  have noDigit : ¬ (half.columns.place? (grid.column p)).isSome = true := by
    intro digit
    have low := (Axis.isSome_block_iff (by decide)).1 digit
    have blocks := Axis.isSome_place?_iff.1 (Grid.isSome_column inside)
    generalize grid.column p = b at blocks low
    simp only [grid] at blocks
    omega
  rw [read_of_isSome (Grid.isSome_row inside), readMore, if_neg noDigit, readPair,
    Grid.pointer?_row_column inside, Option.bind_some, found]
  rfl

/-! ### Four bytes -/

/-- Whether the pointers of a range come before those of another one. -/
def Range.Before (r s : Range) : Prop := r.pointer + r.count ≤ s.pointer

instance : DecidableRel Range.Before := fun _ _ => inferInstanceAs (Decidable (_ ≤ _))

instance : Trans Range.Before Range.Before Range.Before where
  trans {r s t} first second := by
    unfold Range.Before at *
    omega

theorem ranges_apart : ranges.Pairwise Range.Before := by
  -- Only neighbours need to be compared.
  have chain : ranges.IsChain Range.Before := by decide +kernel
  exact chain.pairwise

theorem ranges_within : ∀ r ∈ ranges, r.pointer + r.count ≤ half.size * half.size := by
  decide +kernel

/-- A character that one range has is found, as no other range has its pointer. -/
theorem findSome?_char? {ranges : List Range} {r : Range} (apart : ranges.Pairwise Range.Before)
    (listed : r ∈ ranges) (char : r.char? p = some x) : ranges.findSome? (·.char? p) = some x := by
  induction ranges with
  | nil => cases listed
  | cons s others ih =>
    rw [List.pairwise_cons] at apart
    rw [List.findSome?_cons]
    rcases List.mem_cons.1 listed with rfl | later
    · rw [char]
    · have after := apart.1 r later
      have skipped : s.char? p = none := by
        unfold Range.Before at after
        unfold Range.char? at char
        split_ifs at char
        exact if_neg (by omega)
      rw [skipped]
      exact ih apart.2 later

theorem Range.char?_of_pointer? {r : Range} (found : r.pointer? x = some p) :
    r.char? p = some x ∧ p < r.pointer + r.count := by
  unfold Range.pointer? at found
  split_ifs at found with inside
  obtain rfl := Option.some.inj found
  have code : r.first + (r.pointer + (x.toNat - r.first) - r.pointer) = x.toNat := by omega
  refine ⟨?_, by omega⟩
  rw [Range.char?, if_pos (by omega), code, Char.ofNat_toNat]

theorem rangeChar?_of_rangePointer? (found : rangePointer? x = some p) :
    rangeChar? p = some x ∧ p < half.size * half.size := by
  obtain ⟨r, listed, taken⟩ := List.exists_of_findSome?_eq_some found
  obtain ⟨char, inside⟩ := Range.char?_of_pointer? taken
  have bound := ranges_within r listed
  exact ⟨findSome?_char? ranges_apart listed char, by omega⟩

theorem read_four (found : rangeChar? p = some x) (inside : p < half.size * half.size)
    (rest : Bytes) :
    read (half.row (p / half.size)) (half.column (p / half.size) ::
      half.row (p % half.size) :: half.column (p % half.size) :: rest) = ([x], rest) := by
  have front : p / half.size < half.size := Nat.div_lt_of_lt_mul inside
  have back : p % half.size < half.size := Nat.mod_lt _ (by decide)
  -- The first bytes are those that begin pairs as well.
  have begins : (grid.rows.place? (half.row (p / half.size))).isSome = true :=
    Grid.isSome_row (g := half) front
  have place : p / half.size * half.size + p % half.size = p := Nat.div_add_mod' p half.size
  rw [read_of_isSome begins, readMore, if_pos (Grid.isSome_column front), readFour,
    Grid.pointer?_row_column front, Grid.pointer?_row_column back]
  simp only [place, found, Option.getD_some]

/-! ### Round trip -/

theorem follows (isShort : Bool) : (codec isShort).Follows fun _ => () := by
  refine Codec.follows_stateless fun x bytes written => ?_
  have same := written
  by_cases ascii : x.toNat < 0x80
  · rw [write?, if_pos ascii] at written
    obtain rfl := Option.some.inj written
    exact ⟨x, same, _, [], rfl, fun rest => by simp [read, toNat_of_ascii ascii, ascii]⟩
  by_cases euro : isShort ∧ x = '€'
  · rw [write?, if_neg ascii, if_pos euro] at written
    obtain rfl := Option.some.inj written
    obtain ⟨-, rfl⟩ := euro
    exact ⟨'€', same, 0x80, [], rfl, fun rest => rfl⟩
  rw [write?, if_neg ascii, if_neg euro] at written
  split at written
  next p found =>
    obtain rfl := Option.some.inj written
    obtain ⟨inside, y, char, again⟩ := exists_of_pointer? ascii euro found
    exact ⟨y, again, grid.row p, [grid.column p], rfl, read_row inside char⟩
  next =>
    split_ifs at written
    obtain ⟨p, found, rfl⟩ := Option.map_eq_some_iff.1 written
    obtain ⟨char, inside⟩ := rangeChar?_of_rangePointer? found
    exact ⟨x, same, _, _, rfl, read_four char inside⟩

end Transclusion.Gb18030
