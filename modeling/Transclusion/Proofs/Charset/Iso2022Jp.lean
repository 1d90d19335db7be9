import Mathlib.Tactic.SplitIfs
import Transclusion.Charset.Iso2022Jp
import Transclusion.Proofs.Charset.DoubleByte

/-!
# Reading what has been written in ISO-2022-JP

The reader is in the set of the writer after each character. An escape sequence is read on its own,
before the character for which it was written.

## Main result

`Iso2022Jp.follows`: what is read is written again as the same bytes.
-/

namespace Transclusion.Iso2022Jp

variable {x : Char} {m next : Mode} {p : Nat} {bytes : Bytes}

/-- Whether bytes of a set are read as a character, be it after an escape sequence or not. -/
def Reads (m : Mode) (bytes : Bytes) (x : Char) : Prop :=
  ∃ b more, bytes = b :: more ∧
    ∀ switched rest, read ⟨m, switched⟩ b (more ++ rest) = (⟨m, false⟩, [x], rest)

/-! ### Sets of single bytes -/

theorem reads_single {b : UInt8} (single : m ≠ .pairs) (noEscape : b ≠ 0x1B)
    (char : single? m b = some x) : Reads m [b] x := by
  refine ⟨b, [], rfl, fun switched rest => ?_⟩
  rw [read, if_neg noEscape]
  simp [single, char]

theorem reads_ascii (single : m = .ascii ∨ m = .roman ∧ x ≠ '\\' ∧ x ≠ '~')
    (ascii : x.toNat < 0x80) (noShift : ¬ isShift x.toNat = true) :
    Reads m [UInt8.ofNat x.toNat] x := by
  have value := toNat_of_ascii ascii
  have noEscape : UInt8.ofNat x.toNat ≠ 0x1B := by
    intro escape
    rw [escape] at value
    rw [← value] at noShift
    exact noShift rfl
  have char : single? .ascii (UInt8.ofNat x.toNat) = some x := by
    simp [single?, value, ascii, noShift]
  rcases single with rfl | ⟨rfl, noYen, noLine⟩
  · exact reads_single (by decide) noEscape char
  · refine reads_single (by decide) noEscape ?_
    have same (c : Char) (ne : x ≠ c) (small : c.toNat < 0x80) :
        UInt8.ofNat x.toNat ≠ UInt8.ofNat c.toNat := by
      intro equal
      rw [← UInt8.toNat_inj, value, toNat_of_ascii small] at equal
      exact ne (Char.toNat_inj.1 equal)
    have yen : UInt8.ofNat x.toNat ≠ 0x5C := same '\\' noYen (by decide)
    have line : UInt8.ofNat x.toNat ≠ 0x7E := same '~' noLine (by decide)
    simpa [single?, yen, line] using char

theorem reads_roman {b : UInt8} (roman : romanByte? x = some b) : Reads .roman [b] x := by
  unfold romanByte? at roman
  split_ifs at roman with yen line
  · obtain rfl := Option.some.inj roman
    exact reads_single (by decide) (by decide) (yen ▸ by decide)
  · obtain rfl := Option.some.inj roman
    exact reads_single (by decide) (by decide) (line ▸ by decide)

/-! ### Pairs -/

theorem length_wideForms : wideForms.length = 63 := rfl

theorem wideForms_full : ∀ c ∈ wideForms,
    ¬ isHalfWidth c = true ∧ ¬ c.toNat < 0x80 ∧ romanByte? c = none := by
  -- A check of the list, and not of all characters for whether they are in it.
  have all : wideForms.all (fun c =>
      decide (¬ isHalfWidth c = true ∧ ¬ c.toNat < 0x80 ∧ romanByte? c = none)) = true := by
    decide
  intro c member
  exact of_decide_eq_true (List.all_eq_true.1 all c member)

theorem widened_full (several : ¬ x.toNat < 0x80) (noRoman : romanByte? x = none) :
    ¬ isHalfWidth (widened x) = true ∧ ¬ (widened x).toNat < 0x80 ∧
      romanByte? (widened x) = none := by
  unfold widened
  split
  next half =>
    simp only [isHalfWidth, Bool.and_eq_true, decide_eq_true_eq] at half
    have inside : x.toNat - 0xFF61 < wideForms.length := by
      rw [length_wideForms]
      omega
    rw [← List.getElem_eq_getD (h := inside)]
    exact wideForms_full _ (List.getElem_mem inside)
  next full => exact ⟨full, several, noRoman⟩

theorem hyphenated_full (full : ¬ isHalfWidth x = true) (several : ¬ x.toNat < 0x80)
    (noRoman : romanByte? x = none) :
    widened (hyphenated x) = hyphenated x ∧ ¬ (hyphenated x).toNat < 0x80 ∧
      romanByte? (hyphenated x) = none := by
  unfold hyphenated
  split
  next => exact ⟨if_neg (by decide), by decide, by decide⟩
  next => exact ⟨if_neg full, several, noRoman⟩

theorem place?_of_pair (several : ¬ x.toNat < 0x80) (noRoman : romanByte? x = none) :
    place? m x = (Index.jis0208.pointer? (· < grid.size) (hyphenated (widened x))).map
      fun p => (.pairs, grid.bytes p) := by
  rw [place?, if_neg several, noRoman]

theorem place?_full (several : ¬ x.toNat < 0x80) (noRoman : romanByte? x = none) :
    place? m (hyphenated (widened x)) = place? m x := by
  obtain ⟨full, wide, foreign⟩ := widened_full several noRoman
  obtain ⟨same, wider, stranger⟩ := hyphenated_full full wide foreign
  rw [place?_of_pair several noRoman, place?_of_pair wider stranger, same, hyphenated_hyphenated]

theorem reads_pair (inside : p < grid.size) (char : Index.jis0208.char? p = some x) :
    Reads .pairs (grid.bytes p) x := by
  have begins : (grid.rows.place? (grid.row p)).isSome = true := Grid.isSome_row inside
  have noEscape {b : UInt8} (place : ((Axis.block 0x21 94).place? b).isSome = true) :
      b ≠ 0x1B := by
    rintro rfl
    exact absurd ((Axis.isSome_block_iff (by decide)).1 place).1 (by decide)
  refine ⟨grid.row p, [grid.column p], rfl, fun switched rest => ?_⟩
  rw [read, if_neg (noEscape begins), if_pos ⟨rfl, begins⟩, List.singleton_append, readSecond,
    if_neg (noEscape (Grid.isSome_column inside)), Grid.pointer?_row_column inside,
    Option.bind_some, char]
  rfl

/-! ### Round trip -/

/-- The bytes of a character are read as one that has the same bytes. -/
theorem exists_of_place? (placed : place? m x = some (next, bytes)) :
    ∃ y, place? m y = some (next, bytes) ∧ Reads next bytes y := by
  have same := placed
  by_cases ascii : x.toNat < 0x80
  · rw [place?, if_pos ascii] at placed
    split_ifs at placed with shift roman
    · cases placed
      exact ⟨x, same, reads_ascii (.inr ⟨rfl, roman.2⟩) ascii shift⟩
    · cases placed
      exact ⟨x, same, reads_ascii (.inl rfl) ascii shift⟩
  cases roman : romanByte? x with
  | some b =>
    rw [place?, if_neg ascii, roman] at placed
    cases placed
    exact ⟨x, same, reads_roman roman⟩
  | none =>
    -- A letter of half width and a minus sign are read as the characters they were written as.
    rw [place?_of_pair ascii roman] at placed
    obtain ⟨p, found, pair⟩ := Option.map_eq_some_iff.1 placed
    cases pair
    obtain ⟨inside, char⟩ := Index.of_pointer? found
    exact ⟨_, (place?_full ascii roman).trans same, reads_pair (of_decide_eq_true inside) char⟩

/-- What is read in a state. -/
def run (s : State) (bytes : Bytes) : List Char := codec.decodeFrom s bytes

theorem run_cons (s : State) (b : UInt8) (rest : Bytes) :
    run s (b :: rest) = (read s b rest).2.1 ++ run (read s b rest).1 (read s b rest).2.2 :=
  codec.decodeFrom_cons s b rest

theorem run_nil (s : State) : run s [] = [] := codec.decodeFrom_nil s

theorem run_escape (m next : Mode) (rest : Bytes) :
    run ⟨m, false⟩ (next.escape ++ rest) = run ⟨next, true⟩ rest := by
  have step (a b : UInt8) (switch : mode? a b = some next) :
      run ⟨m, false⟩ (0x1B :: a :: b :: rest) = run ⟨next, true⟩ rest := by
    rw [run_cons, read, if_pos rfl, readEscape, switch]
    rfl
  cases next
  · exact step 0x28 0x42 rfl
  · exact step 0x28 0x4A rfl
  · exact step 0x28 0x49 rfl
  · exact step 0x24 0x42 rfl

theorem run_finish (m : Mode) : run ⟨m, false⟩ (finish m) = [] := by
  unfold finish
  split_ifs
  · exact run_nil _
  · rw [← List.append_nil (Mode.escape .ascii), run_escape, run_nil]

theorem Reads.run_append (reads : Reads m bytes x) (switched : Bool) (rest : Bytes) :
    run ⟨m, switched⟩ (bytes ++ rest) = x :: run ⟨m, false⟩ rest := by
  obtain ⟨b, more, rfl, step⟩ := reads
  rw [List.cons_append, run_cons, step]
  rfl

theorem exists_of_write? (written : write? m x = some (next, bytes)) :
    ∃ y, write? m y = some (next, bytes) ∧
      ∀ rest, run ⟨m, false⟩ (bytes ++ rest) = y :: run ⟨next, false⟩ rest := by
  obtain ⟨⟨mode, last⟩, placed, whole⟩ := Option.map_eq_some_iff.1 written
  obtain ⟨y, same, reads⟩ := exists_of_place? placed
  cases whole
  refine ⟨y, Option.map_eq_some_iff.2 ⟨_, same, rfl⟩, fun rest => ?_⟩
  split_ifs with stays
  · subst stays
    exact reads.run_append false rest
  · rw [List.append_assoc, run_escape]
    exact reads.run_append true rest

theorem follows : codec.Follows fun m => ⟨m, false⟩ where
  start := rfl
  again := exists_of_write?
  ending := run_finish

end Transclusion.Iso2022Jp
