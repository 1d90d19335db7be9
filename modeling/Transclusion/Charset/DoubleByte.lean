import Transclusion.Charset.Codec
import Transclusion.Charset.Grid
import Transclusion.Charset.Index.Big5
import Transclusion.Charset.Index.EucKr
import Transclusion.Charset.Index.Jis0208
import Transclusion.Charset.Index.Jis0212

/-!
# Charsets of one or two bytes per character

Some bytes stand for a character of their own, others are the first of a pair. EUC-JP follows the
same plan with two bytes that shift to other characters.
-/

namespace Transclusion

structure DoubleByte where
  grid : Grid
  /-- The character of a byte that stands on its own. -/
  single? : UInt8 → Option Char
  /-- The characters of a pair. -/
  chars? : Nat → Option (List Char)
  /-- The byte of a character that needs only one. -/
  alone? : Char → Option UInt8
  /-- The pair of a character. -/
  pointer? : Char → Option Nat

namespace DoubleByte

def read (d : DoubleByte) (a : UInt8) (rest : Bytes) : List Char × Bytes :=
  match d.single? a with
  | some c => ([c], rest)
  | none =>
    if (d.grid.rows.place? a).isSome then
      readPair (fun b => (d.grid.pointer? a b).bind d.chars?) rest
    else ([Utf8.replacement], rest)

def write? (d : DoubleByte) (c : Char) : Option Bytes :=
  match d.alone? c with
  | some b => some [b]
  | none => (d.pointer? c).map d.grid.bytes

theorem length_read_le (d : DoubleByte) (a : UInt8) (rest : Bytes) :
    (d.read a rest).2.length ≤ rest.length := by
  unfold read
  split
  next => simp
  next =>
    split
    next => exact length_readPair_le _ _
    next => simp

def codec (d : DoubleByte) : Codec := .stateless d.read d.length_read_le d.write?

end DoubleByte

/-! ### Big5 and EUC-KR -/

def asciiChar? (b : UInt8) : Option Char :=
  if b.toNat < 0x80 then some (Char.ofNat b.toNat) else none

def asciiByte? (c : Char) : Option UInt8 :=
  if c.toNat < 0x80 then some (UInt8.ofNat c.toNat) else none

namespace Big5

def grid : Grid := ⟨.lead, ⟨157, 0x40, 0x3F, 0xA1, by decide⟩⟩

/-- The pairs that stand for a letter and a mark above it. -/
def marked : List (Nat × List Char) :=
  [(1133, ['\u00CA', '\u0304']), (1135, ['\u00CA', '\u030C']), (1164, ['\u00EA', '\u0304']),
    (1166, ['\u00EA', '\u030C'])]

/-- The characters of which the last pair is written, and not the first. -/
def repeated : List Char := ['\u2550', '\u255E', '\u2561', '\u256A', '\u5341', '\u5345']

/-- The extensions in the first rows are read, but not written. -/
def admits (p : Nat) : Bool := 5024 ≤ p && p < grid.size

end Big5

def big5 : DoubleByte where
  grid := Big5.grid
  single? := asciiChar?
  chars? p := (Big5.marked.lookup p).or ((Index.big5.char? p).map ([·]))
  alone? := asciiByte?
  pointer? c :=
    if Big5.repeated.contains c then Index.big5.lastPointer? Big5.admits c
    else Index.big5.pointer? Big5.admits c

def EucKr.grid : Grid := ⟨.lead, .block 0x41 190⟩

def eucKr : DoubleByte where
  grid := EucKr.grid
  single? := asciiChar?
  chars? p := (Index.eucKr.char? p).map ([·])
  alone? := asciiByte?
  pointer? := Index.eucKr.pointer? (· < EucKr.grid.size)

/-! ### Shift_JIS -/

/-- Where a full-width hyphen is written for a minus sign. -/
def hyphenated (c : Char) : Char := if c = '\u2212' then '\uFF0D' else c

/-- The half-width letters of Katakana, from a byte up. -/
def katakana? (first : Nat) (b : UInt8) : Option Char :=
  if first ≤ b.toNat ∧ b.toNat < first + 63 then some (Char.ofNat (0xFF61 + (b.toNat - first)))
  else none

def isHalfWidth (c : Char) : Bool := 0xFF61 ≤ c.toNat && c.toNat < 0xFF61 + 63

/-- Two signs are written as the signs of ASCII that have their place in the Roman set. -/
def romanByte? (c : Char) : Option UInt8 :=
  if c = '\u00A5' then some 0x5C else if c = '\u203E' then some 0x7E else none

namespace ShiftJis

def grid : Grid := ⟨⟨60, 0x81, 31, 0xE0, by decide⟩, ⟨188, 0x40, 0x3F, 0x80, by decide⟩⟩

/-- The pairs that are left to private characters. -/
def isPrivate (p : Nat) : Bool := 8836 ≤ p && p ≤ 10715

/-- What stands twice is not written by the pairs right before the private ones. -/
def admits (p : Nat) : Bool := (p < 8272 || 10715 < p) && p < grid.size

end ShiftJis

def shiftJis : DoubleByte where
  grid := ShiftJis.grid
  single? b := if b.toNat ≤ 0x80 then some (Char.ofNat b.toNat) else katakana? 0xA1 b
  chars? p :=
    if ShiftJis.isPrivate p then some [Char.ofNat (0xE000 + (p - 8836))]
    else (Index.jis0208.char? p).map ([·])
  alone? c :=
    if c.toNat ≤ 0x80 then some (UInt8.ofNat c.toNat)
    else if isHalfWidth c then some (UInt8.ofNat (0xA1 + (c.toNat - 0xFF61)))
    else romanByte? c
  pointer? c := Index.jis0208.pointer? ShiftJis.admits (hyphenated c)

/-! ### EUC-JP -/

namespace EucJp

def grid : Grid := ⟨.block 0xA1 94, .block 0xA1 94⟩

def pair? (i : Index) (a b : UInt8) : Option (List Char) :=
  (grid.pointer? a b).bind fun p => (i.char? p).map ([·])

/-- Read what the byte after a shift begins. -/
def readShifted : Bytes → List Char × Bytes
  | [] => ([Utf8.replacement], [])
  | a :: rest =>
    if (grid.rows.place? a).isSome then readPair (pair? .jis0212 a) rest
    else ([Utf8.replacement], if a.toNat < 0x80 then a :: rest else rest)

def read (a : UInt8) (rest : Bytes) : List Char × Bytes :=
  if a.toNat < 0x80 then ([Char.ofNat a.toNat], rest)
  else if a = 0x8E then readPair (fun b => (katakana? 0xA1 b).map ([·])) rest
  else if a = 0x8F then readShifted rest
  else if (grid.rows.place? a).isSome then readPair (pair? .jis0208 a) rest
  else ([Utf8.replacement], rest)

def write? (c : Char) : Option Bytes :=
  if c.toNat < 0x80 then some [UInt8.ofNat c.toNat]
  else if isHalfWidth c then some [0x8E, UInt8.ofNat (0xA1 + (c.toNat - 0xFF61))]
  else
    match romanByte? c with
    | some b => some [b]
    | none => (Index.jis0208.pointer? (· < grid.size) (hyphenated c)).map grid.bytes

theorem length_readShifted_le (bytes : Bytes) : (readShifted bytes).2.length ≤ bytes.length := by
  unfold readShifted
  split
  next => simp
  next a rest =>
    split
    next => exact Nat.le_succ_of_le (length_readPair_le _ _)
    next => dsimp only; split <;> simp

theorem length_read_le (a : UInt8) (rest : Bytes) : (read a rest).2.length ≤ rest.length := by
  have pair (chars? : UInt8 → Option (List Char)) := length_readPair_le chars? rest
  have shifted := length_readShifted_le rest
  unfold read
  (repeat' split) <;> simp [pair, shifted]

def codec : Codec := .stateless read length_read_le write?

end EucJp

end Transclusion
