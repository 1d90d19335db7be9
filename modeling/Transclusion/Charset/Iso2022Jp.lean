import Transclusion.Charset.DoubleByte

/-!
# ISO-2022-JP

All bytes are those of ASCII. Escape sequences switch between sets of characters: ASCII, a Roman set
that differs in two signs, half-width Katakana, and pairs. Text begins and ends in ASCII.
-/

namespace Transclusion.Iso2022Jp

inductive Mode where
  | ascii
  | roman
  | katakana
  | pairs
deriving DecidableEq, Repr

structure State where
  mode : Mode
  /-- Whether an escape sequence has just been read. -/
  switched : Bool
deriving DecidableEq, Repr

def grid : Grid := ⟨.block 0x21 94, .block 0x21 94⟩

/-- Which set the two bytes after an escape stand for. -/
def mode? (a b : UInt8) : Option Mode :=
  if a = 0x28 ∧ b = 0x42 then some .ascii
  else if a = 0x28 ∧ b = 0x4A then some .roman
  else if a = 0x28 ∧ b = 0x49 then some .katakana
  else if a = 0x24 ∧ (b = 0x40 ∨ b = 0x42) then some .pairs
  else none

def Mode.escape : Mode → Bytes
  | ascii => [0x1B, 0x28, 0x42]
  | roman => [0x1B, 0x28, 0x4A]
  | katakana => [0x1B, 0x28, 0x49]
  | pairs => [0x1B, 0x24, 0x42]

/-- The controls by which other charsets switch. They stand for no character here. -/
def isShift (n : Nat) : Bool := n == 0x0E || n == 0x0F || n == 0x1B

/-- The character of a byte in a set of single bytes. -/
def single? (m : Mode) (b : UInt8) : Option Char :=
  if m = .katakana then katakana? 0x21 b
  else if 0x80 ≤ b.toNat ∨ isShift b.toNat then none
  else if m = .roman ∧ b = 0x5C then some '\u00A5'
  else if m = .roman ∧ b = 0x7E then some '\u203E'
  else some (Char.ofNat b.toNat)

def readEscape (s : State) (rest : Bytes) : State × List Char × Bytes :=
  match rest with
  | a :: b :: after =>
    match mode? a b with
    -- Of two escape sequences in a row the first is malformed.
    | some m => (⟨m, true⟩, if s.switched then [Utf8.replacement] else [], after)
    | none => (⟨s.mode, false⟩, [Utf8.replacement], rest)
  | _ => (⟨s.mode, false⟩, [Utf8.replacement], rest)

def readSecond (a : UInt8) : Bytes → List Char × Bytes
  | [] => ([Utf8.replacement], [])
  | b :: rest =>
    if b = 0x1B then ([Utf8.replacement], b :: rest)
    else ([((grid.pointer? a b).bind Index.jis0208.char?).getD Utf8.replacement], rest)

def read (s : State) (a : UInt8) (rest : Bytes) : State × List Char × Bytes :=
  if a = 0x1B then readEscape s rest
  else
    (⟨s.mode, false⟩,
      if s.mode = .pairs ∧ (grid.rows.place? a).isSome then readSecond a rest
      else
        ([if s.mode = .pairs then Utf8.replacement
          else (single? s.mode a).getD Utf8.replacement], rest))

/-- The full-width forms of the half-width letters, in their order. -/
def wideForms : List Char :=
  ['。', '「', '」', '、', '・', 'ヲ', 'ァ', 'ィ', 'ゥ', 'ェ', 'ォ', 'ャ', 'ュ', 'ョ', 'ッ', 'ー', 'ア', 'イ', 'ウ',
    'エ', 'オ', 'カ', 'キ', 'ク', 'ケ', 'コ', 'サ', 'シ', 'ス', 'セ', 'ソ', 'タ', 'チ', 'ツ', 'テ', 'ト', 'ナ', 'ニ',
    'ヌ', 'ネ', 'ノ', 'ハ', 'ヒ', 'フ', 'ヘ', 'ホ', 'マ', 'ミ', 'ム', 'メ', 'モ', 'ヤ', 'ユ', 'ヨ', 'ラ', 'リ', 'ル',
    'レ', 'ロ', 'ワ', 'ン', '゛', '゜']

def widened (c : Char) : Char :=
  if isHalfWidth c then wideForms.getD (c.toNat - 0xFF61) c else c

/-- The set in which a character is written, and its bytes there. -/
def place? (m : Mode) (c : Char) : Option (Mode × Bytes) :=
  if c.toNat < 0x80 then
    if isShift c.toNat then none
    else if m = .roman ∧ c ≠ '\\' ∧ c ≠ '~' then some (.roman, [UInt8.ofNat c.toNat])
    else some (.ascii, [UInt8.ofNat c.toNat])
  else
    match romanByte? c with
    | some b => some (.roman, [b])
    | none =>
      (Index.jis0208.pointer? (· < grid.size) (hyphenated (widened c))).map fun p =>
        (.pairs, grid.bytes p)

def write? (m : Mode) (c : Char) : Option (Mode × Bytes) :=
  (place? m c).map fun (next, bytes) => (next, (if next = m then [] else next.escape) ++ bytes)

def finish (m : Mode) : Bytes := if m = .ascii then [] else Mode.escape .ascii

theorem length_readEscape_le (s : State) (rest : Bytes) :
    (readEscape s rest).2.2.length ≤ rest.length := by
  unfold readEscape
  split
  next =>
    split
    next => simp only [List.length_cons]; omega
    next => simp
  next => simp

theorem length_readSecond_le (a : UInt8) (bytes : Bytes) :
    (readSecond a bytes).2.length ≤ bytes.length := by
  unfold readSecond
  split
  next => simp
  next => split <;> simp

theorem length_read_le (s : State) (a : UInt8) (rest : Bytes) :
    (read s a rest).2.2.length ≤ rest.length := by
  unfold read
  split
  next => exact length_readEscape_le s rest
  next =>
    dsimp only
    split
    next => exact length_readSecond_le a rest
    next => simp

def codec : Codec where
  Reading := State
  Writing := Mode
  reading := ⟨.ascii, false⟩
  writing := .ascii
  read := read
  shrinks := length_read_le
  write? := write?
  finish := finish

end Transclusion.Iso2022Jp
