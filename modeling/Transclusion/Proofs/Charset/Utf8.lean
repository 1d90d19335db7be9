import Mathlib.Tactic.SplitIfs
import Transclusion.Charset.Utf8

/-!
# Reading back UTF-8

The bytes that a character is written as are read as that character, whatever follows them. The lead
byte tells how many bytes there are. A second byte that would make the sequence needlessly long, half
of a pair or a number beyond the last character is never written, because no character is any of
these.

## Main results

`decode_encode`: a text that is written and read is the same text.
-/

namespace Transclusion.Utf8

variable {a b c d : UInt8}

/-! ### Sequences by their length -/

theorem decode_one (lead : a.toNat < 0x80) (rest : Bytes) :
    decode (a :: rest) = Char.ofNat a.toNat :: decode rest := by
  rw [decode.eq_def]
  simp only [if_pos lead]

theorem decode_two (low : 0xC2 ≤ a.toNat) (high : a.toNat < 0xE0) (second : isTail b = true)
    (rest : Bytes) :
    decode (a :: b :: rest) = Char.ofNat ((a.toNat - 0xC0) * 64 + bits b) :: decode rest := by
  have long : ¬ a.toNat < 0x80 := by omega
  have lead : ¬ a.toNat < 0xC2 := by omega
  rw [decode.eq_def]
  simp only [if_neg long, if_neg lead, if_pos high, if_pos second]

theorem decode_three (low : 0xE0 ≤ a.toNat) (high : a.toNat < 0xF0)
    (second : isSecond a.toNat b = true) (third : isTail c = true) (rest : Bytes) :
    decode (a :: b :: c :: rest) =
      Char.ofNat (((a.toNat - 0xE0) * 64 + bits b) * 64 + bits c) :: decode rest := by
  have long : ¬ a.toNat < 0x80 := by omega
  have lead : ¬ a.toNat < 0xC2 := by omega
  have longer : ¬ a.toNat < 0xE0 := by omega
  rw [decode.eq_def]
  simp only [if_neg long, if_neg lead, if_neg longer, if_pos high, if_pos second, if_pos third]

theorem decode_four (low : 0xF0 ≤ a.toNat) (high : a.toNat < 0xF5)
    (second : isSecond a.toNat b = true) (third : isTail c = true) (fourth : isTail d = true)
    (rest : Bytes) :
    decode (a :: b :: c :: d :: rest) =
      Char.ofNat ((((a.toNat - 0xF0) * 64 + bits b) * 64 + bits c) * 64 + bits d) ::
        decode rest := by
  have long : ¬ a.toNat < 0x80 := by omega
  have lead : ¬ a.toNat < 0xC2 := by omega
  have longer : ¬ a.toNat < 0xE0 := by omega
  have longest : ¬ a.toNat < 0xF0 := by omega
  rw [decode.eq_def]
  simp only [if_neg long, if_neg lead, if_neg longer, if_neg longest, if_pos high, if_pos second,
    if_pos third, if_pos fourth]

/-! ### The bytes of a character -/

/-- A byte is the number it is made from. The bound is a literal, so that arithmetic sees it. -/
theorem toNat_ofNat_of_lt {n : Nat} (small : n < 256) : (UInt8.ofNat n).toNat = n :=
  UInt8.toNat_ofNat_of_lt' small

theorem isTail_ofNat {n : Nat} (small : n < 64) : isTail (UInt8.ofNat (0x80 + n)) = true := by
  rw [isTail, toNat_ofNat_of_lt (by omega), Bool.and_eq_true, decide_eq_true_iff,
    decide_eq_true_iff]
  omega

theorem bits_ofNat {n : Nat} (small : n < 64) : bits (UInt8.ofNat (0x80 + n)) = n := by
  have value : (UInt8.ofNat (0x80 + n)).toNat = 0x80 + n := toNat_ofNat_of_lt (by omega)
  unfold bits
  omega

/-- A second byte is right for its lead unless the sequence is needlessly long, denotes half of a
pair, or lies beyond the last character. -/
theorem isSecond_ofNat {lead n : Nat} (small : n < 64) (needed : lead = 0xE0 → 0x20 ≤ n)
    (whole : lead = 0xED → n < 0x20) (needed' : lead = 0xF0 → 0x10 ≤ n)
    (inside : lead = 0xF4 → n < 0x10) : isSecond lead (UInt8.ofNat (0x80 + n)) = true := by
  rw [isSecond, isTail_ofNat small, toNat_ofNat_of_lt (by omega), Bool.true_and]
  split_ifs with e0 ed f0 f4
  · have := needed e0
    exact decide_eq_true (by omega)
  · have := whole ed
    exact decide_eq_true (by omega)
  · have := needed' f0
    exact decide_eq_true (by omega)
  · have := inside f4
    exact decide_eq_true (by omega)
  · rfl

theorem decode_encodeChar_append (c : Char) (rest : Bytes) :
    decode (encodeChar c ++ rest) = c :: decode rest := by
  have valid : c.toNat < 0xD800 ∨ 0xDFFF < c.toNat ∧ c.toNat < 0x110000 := c.valid
  rw [← congrArg (· :: decode rest) (Char.ofNat_toNat c)]
  unfold encodeChar
  generalize c.toNat = n at valid ⊢
  dsimp only
  -- The cases are the lengths of the sequence, by the size of the number.
  split_ifs with one two three
  · have lead : (UInt8.ofNat n).toNat = n := toNat_ofNat_of_lt (by omega)
    rw [List.singleton_append, decode_one (by omega), lead]
  · have lead : (UInt8.ofNat (0xC0 + n / 64)).toNat = 0xC0 + n / 64 := toNat_ofNat_of_lt (by omega)
    have low : n % 64 < 64 := Nat.mod_lt n (by omega)
    rw [List.cons_append, List.singleton_append,
      decode_two (by omega) (by omega) (isTail_ofNat low), lead, bits_ofNat low]
    congr 2
    omega
  · have lead : (UInt8.ofNat (0xE0 + n / 4096)).toNat = 0xE0 + n / 4096 :=
      toNat_ofNat_of_lt (by omega)
    have middle : n / 64 % 64 < 64 := Nat.mod_lt _ (by omega)
    have low : n % 64 < 64 := Nat.mod_lt n (by omega)
    -- No number below 0x800 is written so, and none between 0xD800 and 0xDFFF is a character.
    have second : isSecond (UInt8.ofNat (0xE0 + n / 4096)).toNat
        (UInt8.ofNat (0x80 + n / 64 % 64)) = true := by
      rw [lead]
      exact isSecond_ofNat middle (by omega) (by omega) (by omega) (by omega)
    rw [List.cons_append, List.cons_append, List.singleton_append,
      decode_three (by omega) (by omega) second (isTail_ofNat low), lead,
      bits_ofNat middle, bits_ofNat low]
    congr 2
    omega
  · have lead : (UInt8.ofNat (0xF0 + n / 262144)).toNat = 0xF0 + n / 262144 :=
      toNat_ofNat_of_lt (by omega)
    have high : n / 4096 % 64 < 64 := Nat.mod_lt _ (by omega)
    have middle : n / 64 % 64 < 64 := Nat.mod_lt _ (by omega)
    have low : n % 64 < 64 := Nat.mod_lt n (by omega)
    -- No number below 0x10000 is written so, and there is no character beyond 0x10FFFF.
    have second : isSecond (UInt8.ofNat (0xF0 + n / 262144)).toNat
        (UInt8.ofNat (0x80 + n / 4096 % 64)) = true := by
      rw [lead]
      exact isSecond_ofNat high (by omega) (by omega) (by omega) (by omega)
    rw [List.cons_append, List.cons_append, List.cons_append, List.singleton_append,
      decode_four (by omega) (by omega) second (isTail_ofNat middle) (isTail_ofNat low),
      lead, bits_ofNat high, bits_ofNat middle, bits_ofNat low]
    congr 2
    omega

/-- A text that is written and read is the same text. -/
theorem decode_encode (cs : List Char) : decode (encode cs) = cs := by
  induction cs with
  | nil => rfl
  | cons c cs ih =>
    change decode (encodeChar c ++ encode cs) = c :: cs
    rw [decode_encodeChar_append, ih]

theorem decode?_encode (cs : List Char) : decode? (encode cs) = some cs := by
  rw [decode?, decode_encode, if_pos rfl]

end Transclusion.Utf8
