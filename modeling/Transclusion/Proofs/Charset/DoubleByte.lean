import Mathlib.Tactic.SplitIfs
import Transclusion.Charset.DoubleByte
import Transclusion.Proofs.Charset.Codec
import Transclusion.Proofs.Charset.Utf8

/-!
# Reading what has been written in one or two bytes

## Main results

`big5_follows`, `eucKr_follows`, `shiftJis_follows`, `EucJp.follows`: what is read is written again
as the same bytes.
-/

namespace Transclusion

variable {x : Char} {b : UInt8} {p : Nat}

theorem Axis.isSome_place?_iff {a : Axis} :
    (a.place? b).isSome = true ↔ a.first ≤ b.toNat ∧ b.toNat < a.first + a.split ∨
      a.second ≤ b.toNat ∧ b.toNat < a.second + (a.size - a.split) := by
  unfold place?
  split_ifs with low high <;> simp [*]

theorem Axis.isSome_block_iff {first size : Nat} (inside : first + size ≤ 256) :
    ((block first size inside).place? b).isSome = true ↔
      first ≤ b.toNat ∧ b.toNat < first + size := by
  rw [isSome_place?_iff]
  simp only [block]
  omega

theorem toNat_of_ascii (ascii : x.toNat < 0x80) : (UInt8.ofNat x.toNat).toNat = x.toNat :=
  Utf8.toNat_ofNat_of_lt (by omega)

namespace DoubleByte

variable {d : DoubleByte}

/-- Whether single bytes and pairs are read as characters that are written by them, and no byte that
begins a pair stands on its own. -/
structure Lawful (d : DoubleByte) : Prop where
  lead {b : UInt8} (begins : (d.grid.rows.place? b).isSome = true) : d.single? b = none
  alone {x : Char} {b : UInt8} (written : d.alone? x = some b) :
    ∃ y, d.alone? y = some b ∧ d.single? b = some y
  pair {x : Char} {p : Nat} (several : d.alone? x = none) (found : d.pointer? x = some p) :
    p < d.grid.size ∧ ∃ y, d.alone? y = none ∧ d.pointer? y = some p ∧ d.chars? p = some [y]

theorem Lawful.follows (lawful : d.Lawful) : d.codec.Follows fun _ => () := by
  refine Codec.follows_stateless fun x bytes written => ?_
  unfold write? at written
  split at written
  next b single =>
    obtain rfl := Option.some.inj written
    obtain ⟨y, same, read⟩ := lawful.alone single
    exact ⟨y, by simp [write?, same], b, [], rfl, fun rest => by simp [DoubleByte.read, read]⟩
  next several =>
    obtain ⟨p, found, rfl⟩ := Option.map_eq_some_iff.1 written
    obtain ⟨inside, y, alone, same, chars⟩ := lawful.pair several found
    have begins := Grid.isSome_row inside
    refine ⟨y, by simp [write?, alone, same], d.grid.row p, [d.grid.column p], rfl, fun rest => ?_⟩
    rw [DoubleByte.read, lawful.lead begins]
    simp [begins, readPair, Grid.pointer?_row_column inside, chars]

end DoubleByte

/-! ### Big5 and EUC-KR -/

theorem asciiChar?_of_asciiByte? (written : asciiByte? x = some b) : asciiChar? b = some x := by
  unfold asciiByte? at written
  split_ifs at written with ascii
  obtain rfl := Option.some.inj written
  simp [asciiChar?, toNat_of_ascii ascii, ascii]

theorem asciiChar?_of_le (high : 0x80 ≤ b.toNat) : asciiChar? b = none := by
  simp [asciiChar?, high]

theorem big5_follows : big5.codec.Follows fun _ => () := by
  apply DoubleByte.Lawful.follows
  constructor
  case lead =>
    intro b begins
    have high := (Axis.isSome_block_iff (by decide)).1 begins
    exact asciiChar?_of_le (by omega)
  case alone => exact fun written => ⟨_, written, asciiChar?_of_asciiByte? written⟩
  case pair =>
    intro x p several found
    have listed : Big5.admits p = true ∧ Index.big5.char? p = some x := by
      simp only [big5] at found
      split at found
      next => exact Index.of_lastPointer? found
      next => exact Index.of_pointer? found
    have admitted := listed.1
    simp only [Big5.admits, Bool.and_eq_true, decide_eq_true_eq] at admitted
    have unmarked : Big5.marked.lookup p = none := by
      -- The pairs of two characters are in the first rows.
      simp only [Big5.marked, List.lookup_eq_none_iff, List.forall_mem_cons, bne_iff_ne]
      refine ⟨?_, ?_, ?_, ?_, by simp⟩ <;> omega
    exact ⟨admitted.2, x, several, found, by simp [big5, unmarked, listed.2]⟩

theorem eucKr_follows : eucKr.codec.Follows fun _ => () := by
  apply DoubleByte.Lawful.follows
  constructor
  case lead =>
    intro b begins
    have high := (Axis.isSome_block_iff (by decide)).1 begins
    exact asciiChar?_of_le (by omega)
  case alone => exact fun written => ⟨_, written, asciiChar?_of_asciiByte? written⟩
  case pair =>
    intro x p several found
    simp only [eucKr] at found
    obtain ⟨inside, char⟩ := Index.of_pointer? found
    exact ⟨of_decide_eq_true inside, x, several, found, by simp [eucKr, char]⟩

/-! ### Shift_JIS -/

theorem hyphenated_hyphenated (x : Char) : hyphenated (hyphenated x) = hyphenated x := by
  unfold hyphenated
  split
  next => decide
  next => rfl

theorem katakana?_of_isHalfWidth {first : Nat} (half : isHalfWidth x = true)
    (value : b.toNat = first + (x.toNat - 0xFF61)) : katakana? first b = some x := by
  simp only [isHalfWidth, Bool.and_eq_true, decide_eq_true_eq] at half
  have code : 0xFF61 + (b.toNat - first) = x.toNat := by omega
  rw [katakana?, if_pos (by omega), code, Char.ofNat_toNat]

theorem toNat_halfWidth (half : isHalfWidth x = true) :
    (UInt8.ofNat (0xA1 + (x.toNat - 0xFF61))).toNat = 0xA1 + (x.toNat - 0xFF61) := by
  simp only [isHalfWidth, Bool.and_eq_true, decide_eq_true_eq] at half
  exact Utf8.toNat_ofNat_of_lt (by omega)

theorem eq_of_romanByte? (written : romanByte? x = some b) : b = 0x5C ∨ b = 0x7E := by
  unfold romanByte? at written
  split_ifs at written
  · exact .inl (Option.some.inj written).symm
  · exact .inr (Option.some.inj written).symm

theorem shiftJis_follows : shiftJis.codec.Follows fun _ => () := by
  apply DoubleByte.Lawful.follows
  constructor
  case lead =>
    intro b begins
    rw [Axis.isSome_place?_iff] at begins
    simp only [shiftJis, ShiftJis.grid] at begins
    simp only [shiftJis, katakana?]
    rw [if_neg (by omega), if_neg (by omega)]
  case alone =>
    intro x b written
    simp only [shiftJis] at written ⊢
    split_ifs at written with ascii half
    · obtain rfl := Option.some.inj written
      have value : (UInt8.ofNat x.toNat).toNat = x.toNat := Utf8.toNat_ofNat_of_lt (by omega)
      exact ⟨x, by simp [ascii], by simp [value, ascii]⟩
    · obtain rfl := Option.some.inj written
      have value := toNat_halfWidth half
      refine ⟨x, by simp [ascii, half], ?_⟩
      rw [if_neg (by omega), katakana?_of_isHalfWidth half value]
    · -- The two signs come back as signs of ASCII, which have the same bytes.
      rcases eq_of_romanByte? written with rfl | rfl
      · exact ⟨'\\', by decide, by decide⟩
      · exact ⟨'~', by decide, by decide⟩
  case pair =>
    intro x p several found
    simp only [shiftJis] at found
    obtain ⟨admitted, char⟩ := Index.of_pointer? found
    simp only [ShiftJis.admits, Bool.and_eq_true, Bool.or_eq_true, decide_eq_true_eq] at admitted
    refine ⟨admitted.2, hyphenated x, ?_, ?_, ?_⟩
    · by_cases minus : x = '\u2212'
      · subst minus
        decide
      · rwa [hyphenated, if_neg minus]
    · simpa only [shiftJis, hyphenated_hyphenated] using found
    · have isPublic : ShiftJis.isPrivate p = false := by
        simp only [ShiftJis.isPrivate, Bool.and_eq_false_iff, decide_eq_false_iff_not]
        omega
      simp [shiftJis, isPublic, char]

/-! ### EUC-JP -/

namespace EucJp

theorem write?_of_pair (several : ¬ x.toNat < 0x80) (full : ¬ isHalfWidth x = true)
    (noRoman : romanByte? x = none) :
    write? x = (Index.jis0208.pointer? (· < grid.size) (hyphenated x)).map grid.bytes := by
  rw [write?, if_neg several, if_neg full, noRoman]

theorem write?_hyphenated (several : ¬ x.toNat < 0x80) (full : ¬ isHalfWidth x = true)
    (noRoman : romanByte? x = none) : write? (hyphenated x) = write? x := by
  by_cases minus : x = '\u2212'
  · subst minus
    rw [write?_of_pair several full noRoman,
      write?_of_pair (by decide) (by decide) (by decide), hyphenated_hyphenated]
  · rw [hyphenated, if_neg minus]

theorem read_row (inside : p < grid.size) (found : Index.jis0208.char? p = some x)
    (rest : Bytes) : read (grid.row p) (grid.column p :: rest) = ([x], rest) := by
  have begins : (grid.rows.place? (grid.row p)).isSome = true := Grid.isSome_row inside
  obtain ⟨high, -⟩ := (Axis.isSome_block_iff (by decide)).1 begins
  -- Both shifts are below the first bytes of pairs.
  have shiftless : ∀ b : UInt8, b.toNat < 0xA1 → grid.row p ≠ b := by
    rintro b low rfl
    omega
  rw [read, if_neg (by omega), if_neg (shiftless _ (by decide)),
    if_neg (shiftless _ (by decide)), if_pos begins]
  rw [readPair, pair?, Grid.pointer?_row_column inside, Option.bind_some, found]
  rfl

theorem read_shift (letter : katakana? 0xA1 b = some x) (rest : Bytes) :
    read 0x8E (b :: rest) = ([x], rest) := by
  rw [read, if_neg (by decide), if_pos rfl, readPair, letter]
  rfl

theorem follows : codec.Follows fun _ => () := by
  refine Codec.follows_stateless fun x bytes written => ?_
  have same := written
  unfold write? at written
  split_ifs at written with ascii half
  · obtain rfl := Option.some.inj written
    exact ⟨x, same, _, [], rfl, fun rest => by simp [read, toNat_of_ascii ascii, ascii]⟩
  · obtain rfl := Option.some.inj written
    have letter := katakana?_of_isHalfWidth half (toNat_halfWidth half)
    exact ⟨x, same, 0x8E, _, rfl, read_shift letter⟩
  · split at written
    next b roman =>
      obtain rfl := Option.some.inj written
      rcases eq_of_romanByte? roman with rfl | rfl
      · exact ⟨'\\', by decide, _, [], rfl, fun rest => rfl⟩
      · exact ⟨'~', by decide, _, [], rfl, fun rest => rfl⟩
    next noRoman =>
      obtain ⟨p, found, rfl⟩ := Option.map_eq_some_iff.1 written
      obtain ⟨inside, char⟩ := Index.of_pointer? found
      exact ⟨hyphenated x, (write?_hyphenated ascii half noRoman).trans same, grid.row p,
        [grid.column p], rfl, read_row (of_decide_eq_true inside) char⟩

end EucJp

end Transclusion
