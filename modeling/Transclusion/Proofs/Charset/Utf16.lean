import Mathlib.Tactic.SplitIfs
import Transclusion.Charset.Utf16
import Transclusion.Proofs.Charset.Utf8

/-!
# Reading back UTF-16

Writing takes a text to units and each unit to two bytes; reading undoes both, in either order of
the bytes. A character that needs two units is written as a first and a second half, and no other
character is written as a unit that is such a half.

## Main results

`decode_encode`: a text that is written and read is the same text.
-/

namespace Transclusion.Utf16

theorem unit_bytes_append (o : Order) {n : Nat} (small : n < 0x10000) (rest : Bytes) :
    units o (o.bytes n ++ rest) = (n :: (units o rest).1, (units o rest).2) := by
  have low : (UInt8.ofNat (n % 256)).toNat = n % 256 := Utf8.toNat_ofNat_of_lt (by omega)
  have high : (UInt8.ofNat (n / 256)).toNat = n / 256 := Utf8.toNat_ofNat_of_lt (by omega)
  cases o with
  | little =>
    have value : n % 256 + 256 * (n / 256) = n := Nat.mod_add_div n 256
    simp only [Order.bytes, List.cons_append, List.nil_append, units, Order.unit, low, high, value]
  | big =>
    have value : 256 * (n / 256) + n % 256 = n := Nat.div_add_mod n 256
    simp only [Order.bytes, List.cons_append, List.nil_append, units, Order.unit, low, high, value]

theorem units_flatMap_bytes (o : Order) {us : List Nat} (small : ∀ u ∈ us, u < 0x10000) :
    units o (us.flatMap o.bytes) = (us, false) := by
  induction us with
  | nil => rfl
  | cons u us ih =>
    rw [List.flatMap_cons, unit_bytes_append o (small u List.mem_cons_self),
      ih fun v member => small v (List.mem_cons_of_mem u member)]

theorem unitsOf_small {c : Char} {u : Nat} (member : u ∈ unitsOf c) : u < 0x10000 := by
  have valid : c.toNat < 0xD800 ∨ 0xDFFF < c.toNat ∧ c.toNat < 0x110000 := c.valid
  unfold unitsOf at member
  dsimp only at member
  split at member
  next small =>
    obtain rfl := List.mem_singleton.1 member
    exact small
  next large =>
    simp only [List.mem_cons, List.not_mem_nil, or_false] at member
    omega

theorem ofUnits_unitsOf_append (odd : Bool) (c : Char) (rest : List Nat) :
    ofUnits odd (unitsOf c ++ rest) = c :: ofUnits odd rest := by
  have valid : c.toNat < 0xD800 ∨ 0xDFFF < c.toNat ∧ c.toNat < 0x110000 := c.valid
  rw [← congrArg (· :: ofUnits odd rest) (Char.ofNat_toNat c)]
  unfold unitsOf
  generalize c.toNat = n at valid ⊢
  dsimp only
  split_ifs with single
  -- No character is half of a pair, so a single unit is not taken for one.
  · have first : isHigh n = false := by
      simp only [isHigh, Bool.and_eq_false_iff, decide_eq_false_iff_not]
      omega
    have second : isLow n = false := by
      simp only [isLow, Bool.and_eq_false_iff, decide_eq_false_iff_not]
      omega
    rw [List.singleton_append, ofUnits.eq_def]
    simp only [first, second, Bool.false_eq_true, if_false]
  · have first : isHigh (0xD800 + (n - 0x10000) / 1024) = true := by
      simp only [isHigh, Bool.and_eq_true, decide_eq_true_eq]
      omega
    have second : isLow (0xDC00 + (n - 0x10000) % 1024) = true := by
      simp only [isLow, Bool.and_eq_true, decide_eq_true_eq]
      omega
    have value : 0x10000 + (0xD800 + (n - 0x10000) / 1024 - 0xD800) * 1024 +
        (0xDC00 + (n - 0x10000) % 1024 - 0xDC00) = n := by omega
    rw [List.cons_append, List.singleton_append, ofUnits.eq_def]
    simp only [first, second, if_true, value]

theorem ofUnits_flatMap_unitsOf (cs : List Char) : ofUnits false (cs.flatMap unitsOf) = cs := by
  induction cs with
  | nil => rfl
  | cons c cs ih => rw [List.flatMap_cons, ofUnits_unitsOf_append, ih]

/-- A text that is written and read is the same text. -/
theorem decode_encode (o : Order) (cs : List Char) : decode o (encode o cs) = cs := by
  have small : ∀ u ∈ cs.flatMap unitsOf, u < 0x10000 := by
    intro u member
    obtain ⟨c, -, inside⟩ := List.mem_flatMap.1 member
    exact unitsOf_small inside
  rw [encode, ← List.flatMap_assoc, decode, units_flatMap_bytes o small]
  exact ofUnits_flatMap_unitsOf cs

end Transclusion.Utf16
