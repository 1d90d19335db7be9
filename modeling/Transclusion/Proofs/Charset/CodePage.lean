import Mathlib.Tactic.SplitIfs
import Transclusion.Charset.CodePage
import Transclusion.Proofs.Charset.Utf8

/-!
# Reading and writing code pages

A code page has a byte for some characters and a character for some bytes, and both are the same
pairs. A byte without a character reads as the replacement character, which no code page has a byte
for. So no byte is ever changed: bytes that are read are written as they were, or not at all.

## Main results

`decode_of_encode?`: a text that is written is read as the same text.
`encode?_decode`: bytes that are read are written as the same bytes, or not at all.
-/

namespace Transclusion

section

variable {α β : Type} {write : α → Option β} {read : β → α}

/-- What is written item by item is read item by item. -/
theorem map_of_mapM (inverse : ∀ a b, write a = some b → read b = a) {as : List α} {bs : List β}
    (written : as.mapM write = some bs) : bs.map read = as := by
  induction as generalizing bs with
  | nil =>
    cases written
    rfl
  | cons a as ih =>
    simp only [List.mapM_cons, Option.bind_eq_bind, Option.bind_eq_some_iff, Option.pure_def,
      Option.some.injEq] at written
    obtain ⟨b, first, rest, others, rfl⟩ := written
    rw [List.map_cons, inverse a b first, ih others]

theorem mapM_map_of_forall (inverse : ∀ b, write (read b) = some b) (bs : List β) :
    (bs.map read).mapM write = some bs := by
  have whole : write ∘ read = fun b => pure b := funext inverse
  rw [List.mapM_map, whole, List.mapM_pure, List.map_id', Option.pure_def]

/-- What is read item by item is written as it was, unless some item cannot be written. -/
theorem mapM_map (inverse : ∀ b, write (read b) = some b ∨ write (read b) = none) (bs : List β) :
    (bs.map read).mapM write = some bs ∨ (bs.map read).mapM write = none := by
  induction bs with
  | nil => exact .inl rfl
  | cons b bs ih =>
    rw [List.map_cons, List.mapM_cons]
    rcases inverse b with first | lost
    · rcases ih with others | lost
      · exact .inl (by simp only [first, others, Option.bind_eq_bind, Option.bind_some,
          Option.pure_def])
      · exact .inr (by simp only [first, lost, Option.bind_eq_bind, Option.bind_some,
          Option.bind_none])
    · exact .inr (by simp only [lost, Option.bind_eq_bind, Option.bind_none])

end

namespace CodePage

/-! ### The tables -/

/-- Whether two runs have no code point in common. -/
def apart (r s : Nat × Nat) : Bool := (r.1 + r.2).ble s.1 || (s.1 + s.2).ble r.1

/-- Whether runs have no code point in common but the replacement character. -/
def disjoint : List (Nat × Nat) → Bool
  | [] => true
  | r :: rs => (r == (Utf8.replacement.toNat, 1) || rs.all (apart r)) && disjoint rs

/-- Whether a run consists of characters above ASCII. -/
def isHigh (r : Nat × Nat) : Bool :=
  0x80 ≤ r.1 && (r.1 + r.2 ≤ 0xD800 || 0xE000 ≤ r.1 && r.1 + r.2 ≤ 0x110000)

theorem disjoint_runs (p : CodePage) : disjoint p.runs = true := by
  cases p <;> decide +kernel

theorem isHigh_runs (p : CodePage) : p.runs.all isHigh = true := by
  cases p <;> decide +kernel

theorem length_upper (p : CodePage) : p.upper.length = 0x80 := by
  have counts : (p.runs.map (·.2)).sum = 0x80 := by
    cases p <;> decide +kernel
  simpa only [upper, List.length_flatMap, List.length_range'] using counts

/-- In runs that are disjoint a code point stands once, unless it stands for a lack of one. -/
theorem pairwise_of_disjoint {runs : List (Nat × Nat)} (apart : disjoint runs = true) :
    (runs.flatMap fun (first, count) => List.range' first count).Pairwise
      fun m n => m = n → m = Utf8.replacement.toNat := by
  induction runs with
  | nil => exact .nil
  | cons r runs ih =>
    obtain ⟨first, count⟩ := r
    simp only [disjoint, Bool.and_eq_true, Bool.or_eq_true, beq_iff_eq, List.all_eq_true] at apart
    obtain ⟨alone, others⟩ := apart
    rw [List.flatMap_cons, List.pairwise_append]
    have rising : (List.range' first count).Pairwise (· < ·) := List.pairwise_lt_range'
    refine ⟨rising.imp fun less same => absurd same (Nat.ne_of_lt less), ih others, ?_⟩
    rintro m inside n member rfl
    obtain ⟨⟨first', count'⟩, listed, inside'⟩ := List.mem_flatMap.1 member
    rw [List.mem_range'_1] at inside inside'
    rcases alone with lacking | separate
    · cases lacking
      omega
    · have := separate _ listed
      simp only [CodePage.apart, Bool.or_eq_true, Nat.ble_eq] at this
      omega

theorem high_of_mem_upper {p : CodePage} {n : Nat} (member : n ∈ p.upper) :
    0x80 ≤ n ∧ n.isValidChar := by
  obtain ⟨⟨first, count⟩, listed, inside⟩ := List.mem_flatMap.1 member
  have high := List.all_eq_true.1 p.isHigh_runs _ listed
  rw [List.mem_range'_1] at inside
  simp only [isHigh, Bool.and_eq_true, Bool.or_eq_true, decide_eq_true_eq] at high
  refine ⟨by omega, ?_⟩
  unfold Nat.isValidChar
  omega

/-! ### Single characters -/

theorem toNat_charOfNat {n : Nat} (valid : n.isValidChar) : (Char.ofNat n).toNat = n := by
  rw [Char.ofNat, dif_pos valid]
  rfl

theorem charOf_low (upper : Array Nat) {b : UInt8} (ascii : b.toNat < 0x80) :
    charOf upper b = Char.ofNat b.toNat := if_pos ascii

theorem charOf_high {upper : List Nat} {b : UInt8} {k : Nat} (value : b.toNat = 0x80 + k)
    (inside : k < upper.length) : charOf upper.toArray b = Char.ofNat upper[k] := by
  have high : ¬ 0x80 + k < 0x80 := by omega
  rw [charOf, value, if_neg high, Nat.add_sub_cancel_left, Array.getD_eq_getD_getElem?,
    List.getElem?_toArray, List.getElem?_eq_getElem inside, Option.getD_some]

/-- The byte of a character is read as the character. -/
theorem charOf_of_byteOf? {p : CodePage} {c : Char} {b : UInt8}
    (written : byteOf? p.upper c = some b) : charOf p.upper.toArray b = c := by
  unfold byteOf? at written
  split_ifs at written with ascii lacking
  · obtain rfl := Option.some.inj written
    have value : (UInt8.ofNat c.toNat).toNat = c.toNat := Utf8.toNat_ofNat_of_lt (by omega)
    have low : (UInt8.ofNat c.toNat).toNat < 0x80 := by rwa [value]
    rw [charOf_low _ low, value, Char.ofNat_toNat]
  · obtain ⟨k, found, rfl⟩ := Option.map_eq_some_iff.1 written
    obtain ⟨inside, same, -⟩ := List.findIdx?_eq_some_iff_getElem.1 found
    have small : k < 0x80 := p.length_upper ▸ inside
    have value : (UInt8.ofNat (0x80 + k)).toNat = 0x80 + k := Utf8.toNat_ofNat_of_lt (by omega)
    rw [charOf_high value inside, eq_of_beq same, Char.ofNat_toNat]

theorem byteOf?_replacement (upper : List Nat) : byteOf? upper Utf8.replacement = none := by
  rw [byteOf?, if_neg (by decide), if_pos rfl]

/-- The character at a place of the table is found at that place, unless it stands for a lack. -/
theorem byteOf?_getElem {p : CodePage} {k : Nat} (inside : k < p.upper.length)
    (known : Char.ofNat p.upper[k] ≠ Utf8.replacement) :
    byteOf? p.upper (Char.ofNat p.upper[k]) = some (UInt8.ofNat (0x80 + k)) := by
  obtain ⟨high, valid⟩ := high_of_mem_upper (List.getElem_mem inside)
  have value : (Char.ofNat p.upper[k]).toNat = p.upper[k] := toNat_charOfNat valid
  have first : p.upper.findIdx? (· == p.upper[k]) = some k := by
    refine List.findIdx?_eq_some_iff_getElem.2 ⟨inside, beq_self_eq_true _, ?_⟩
    intro j before same
    -- A code point that stands twice in the table stands for a lack.
    have twice := List.pairwise_iff_getElem.1 (pairwise_of_disjoint p.disjoint_runs) j k
      (Nat.lt_trans before inside) inside before (eq_of_beq same)
    apply known
    rw [← eq_of_beq same]
    exact (congrArg Char.ofNat twice).trans (Char.ofNat_toNat _)
  rw [byteOf?, value, if_neg (Nat.not_lt.2 high), if_neg known, first, Option.map_some]

/-- The character of a byte is written as the byte, unless it stands for a lack of one. -/
theorem byteOf?_charOf_of_ne {p : CodePage} {b : UInt8}
    (known : charOf p.upper.toArray b ≠ Utf8.replacement) :
    byteOf? p.upper (charOf p.upper.toArray b) = some b := by
  rcases Nat.lt_or_ge b.toNat 0x80 with ascii | high
  · have value : (Char.ofNat b.toNat).toNat = b.toNat := toNat_charOfNat (.inl (by omega))
    rw [charOf_low _ ascii, byteOf?, value, if_pos ascii, UInt8.ofNat_toNat]
  · obtain ⟨k, value⟩ := Nat.exists_eq_add_of_le high
    have small := b.toNat_lt
    have inside : k < p.upper.length := by
      rw [p.length_upper]
      omega
    have whole : UInt8.ofNat (0x80 + k) = b := by rw [← value, UInt8.ofNat_toNat]
    rw [charOf_high value inside] at known ⊢
    rw [byteOf?_getElem inside known, whole]

theorem byteOf?_charOf (p : CodePage) (b : UInt8) :
    byteOf? p.upper (charOf p.upper.toArray b) = some b ∨
      byteOf? p.upper (charOf p.upper.toArray b) = none := by
  by_cases lacking : charOf p.upper.toArray b = Utf8.replacement
  · right
    rw [lacking, byteOf?_replacement]
  · exact .inl (byteOf?_charOf_of_ne lacking)

/-! ### Texts -/

/-- A text that is written is read as the same text. -/
theorem decode_of_encode? {p : CodePage} {cs : List Char} {bytes : Bytes}
    (written : p.encode? cs = some bytes) : p.decode bytes = cs :=
  map_of_mapM (fun _ _ => charOf_of_byteOf?) written

/-- Bytes that are read are written as the same bytes, or not at all. -/
theorem encode?_decode (p : CodePage) (bytes : Bytes) :
    p.encode? (p.decode bytes) = some bytes ∨ p.encode? (p.decode bytes) = none :=
  mapM_map p.byteOf?_charOf bytes

end CodePage

end Transclusion
