import Transclusion.Charset.Codec
import Transclusion.Charset.Grid
import Transclusion.Charset.Index.Gb18030

/-!
# gb18030 and GBK

Characters of two bytes come from an index. All other characters have four bytes, by ranges of code
points. Both charsets are read alike. GBK writes no four bytes, and the euro sign as one.
-/

namespace Transclusion.Gb18030

def grid : Grid := ⟨.lead, ⟨190, 0x40, 0x3F, 0x80, by decide⟩⟩

/-! ### Two bytes -/

/-- A pointer that a later edition gave another character. Both characters are written by it. -/
structure Amendment where
  pointer : Nat
  former : Char
  present : Char

def amendments : List Amendment :=
  [⟨7182, '\uE78D', '\uFE10'⟩, ⟨7183, '\uE78E', '\uFE12'⟩, ⟨7184, '\uE78F', '\uFE11'⟩,
    ⟨7185, '\uE790', '\uFE13'⟩, ⟨7186, '\uE791', '\uFE14'⟩, ⟨7187, '\uE792', '\uFE15'⟩,
    ⟨7188, '\uE793', '\uFE16'⟩, ⟨7201, '\uE794', '\uFE17'⟩, ⟨7202, '\uE795', '\uFE18'⟩,
    ⟨7208, '\uE796', '\uFE19'⟩, ⟨23775, '\uE81E', '\u9FB4'⟩, ⟨23783, '\uE826', '\u9FB5'⟩,
    ⟨23788, '\uE82B', '\u9FB6'⟩, ⟨23789, '\uE82C', '\u9FB7'⟩, ⟨23795, '\uE832', '\u9FB8'⟩,
    ⟨23812, '\uE843', '\u9FB9'⟩, ⟨23829, '\uE854', '\u9FBA'⟩, ⟨23845, '\uE864', '\u9FBB'⟩]

def amended? (pointer : Nat) : Option Amendment := amendments.find? (·.pointer == pointer)

def char? (pointer : Nat) : Option Char :=
  match amended? pointer with
  | some a => some a.present
  | none => Index.gb18030.char? pointer

def pointer? (c : Char) : Option Nat :=
  match amendments.find? fun a => a.former == c || a.present == c with
  | some a => some a.pointer
  | none => Index.gb18030.pointer? (fun p => p < grid.size && (amended? p).isNone) c

/-! ### Four bytes -/

/-- Code points that follow each other, with the pointer of the first. -/
structure Range where
  pointer : Nat
  first : Nat
  count : Nat

def Range.char? (r : Range) (pointer : Nat) : Option Char :=
  if r.pointer ≤ pointer ∧ pointer < r.pointer + r.count then
    some (Char.ofNat (r.first + (pointer - r.pointer)))
  else none

def Range.pointer? (r : Range) (c : Char) : Option Nat :=
  if r.first ≤ c.toNat ∧ c.toNat < r.first + r.count then some (r.pointer + (c.toNat - r.first))
  else none

def ranges : List Range :=
  [⟨0, 0x80, 36⟩, ⟨36, 0xA5, 2⟩, ⟨38, 0xA9, 7⟩, ⟨45, 0xB2, 5⟩, ⟨50, 0xB8, 31⟩, ⟨81, 0xD8, 8⟩,
    ⟨89, 0xE2, 6⟩, ⟨95, 0xEB, 1⟩, ⟨96, 0xEE, 4⟩, ⟨100, 0xF4, 3⟩, ⟨103, 0xF8, 1⟩, ⟨104, 0xFB, 1⟩,
    ⟨105, 0xFD, 4⟩, ⟨109, 0x102, 17⟩, ⟨126, 0x114, 7⟩, ⟨133, 0x11C, 15⟩, ⟨148, 0x12C, 24⟩,
    ⟨172, 0x145, 3⟩, ⟨175, 0x149, 4⟩, ⟨179, 0x14E, 29⟩, ⟨208, 0x16C, 98⟩, ⟨306, 0x1CF, 1⟩,
    ⟨307, 0x1D1, 1⟩, ⟨308, 0x1D3, 1⟩, ⟨309, 0x1D5, 1⟩, ⟨310, 0x1D7, 1⟩, ⟨311, 0x1D9, 1⟩,
    ⟨312, 0x1DB, 1⟩, ⟨313, 0x1DD, 28⟩, ⟨341, 0x1FA, 87⟩, ⟨428, 0x252, 15⟩, ⟨443, 0x262, 101⟩,
    ⟨544, 0x2C8, 1⟩, ⟨545, 0x2CC, 13⟩, ⟨558, 0x2DA, 183⟩, ⟨741, 0x3A2, 1⟩, ⟨742, 0x3AA, 7⟩,
    ⟨749, 0x3C2, 1⟩, ⟨750, 0x3CA, 55⟩, ⟨805, 0x402, 14⟩, ⟨819, 0x450, 1⟩, ⟨820, 0x452, 6637⟩,
    ⟨7457, 0xE7C7, 1⟩, ⟨7458, 0x1E40, 464⟩, ⟨7922, 0x2011, 2⟩, ⟨7924, 0x2017, 1⟩,
    ⟨7925, 0x201A, 2⟩, ⟨7927, 0x201E, 7⟩, ⟨7934, 0x2027, 9⟩, ⟨7943, 0x2031, 1⟩, ⟨7944, 0x2034, 1⟩,
    ⟨7945, 0x2036, 5⟩, ⟨7950, 0x203C, 112⟩, ⟨8062, 0x20AD, 86⟩, ⟨8148, 0x2104, 1⟩,
    ⟨8149, 0x2106, 3⟩, ⟨8152, 0x210A, 12⟩, ⟨8164, 0x2117, 10⟩, ⟨8174, 0x2122, 62⟩,
    ⟨8236, 0x216C, 4⟩, ⟨8240, 0x217A, 22⟩, ⟨8262, 0x2194, 2⟩, ⟨8264, 0x219A, 110⟩,
    ⟨8374, 0x2209, 6⟩, ⟨8380, 0x2210, 1⟩, ⟨8381, 0x2212, 3⟩, ⟨8384, 0x2216, 4⟩, ⟨8388, 0x221B, 2⟩,
    ⟨8390, 0x2221, 2⟩, ⟨8392, 0x2224, 1⟩, ⟨8393, 0x2226, 1⟩, ⟨8394, 0x222C, 2⟩, ⟨8396, 0x222F, 5⟩,
    ⟨8401, 0x2238, 5⟩, ⟨8406, 0x223E, 10⟩, ⟨8416, 0x2249, 3⟩, ⟨8419, 0x224D, 5⟩,
    ⟨8424, 0x2253, 13⟩, ⟨8437, 0x2262, 2⟩, ⟨8439, 0x2268, 6⟩, ⟨8445, 0x2270, 37⟩,
    ⟨8482, 0x2296, 3⟩, ⟨8485, 0x229A, 11⟩, ⟨8496, 0x22A6, 25⟩, ⟨8521, 0x22C0, 82⟩,
    ⟨8603, 0x2313, 333⟩, ⟨8936, 0x246A, 10⟩, ⟨8946, 0x249C, 100⟩, ⟨9046, 0x254C, 4⟩,
    ⟨9050, 0x2574, 13⟩, ⟨9063, 0x2590, 3⟩, ⟨9066, 0x2596, 10⟩, ⟨9076, 0x25A2, 16⟩,
    ⟨9092, 0x25B4, 8⟩, ⟨9100, 0x25BE, 8⟩, ⟨9108, 0x25C8, 3⟩, ⟨9111, 0x25CC, 2⟩, ⟨9113, 0x25D0, 18⟩,
    ⟨9131, 0x25E6, 31⟩, ⟨9162, 0x2607, 2⟩, ⟨9164, 0x260A, 54⟩, ⟨9218, 0x2641, 1⟩,
    ⟨9219, 0x2643, 2110⟩, ⟨11329, 0x2E82, 2⟩, ⟨11331, 0x2E85, 3⟩, ⟨11334, 0x2E89, 2⟩,
    ⟨11336, 0x2E8D, 10⟩, ⟨11346, 0x2E98, 15⟩, ⟨11361, 0x2EA8, 2⟩, ⟨11363, 0x2EAB, 3⟩,
    ⟨11366, 0x2EAF, 4⟩, ⟨11370, 0x2EB4, 2⟩, ⟨11372, 0x2EB8, 3⟩, ⟨11375, 0x2EBC, 14⟩,
    ⟨11389, 0x2ECB, 293⟩, ⟨11682, 0x2FFC, 4⟩, ⟨11686, 0x3004, 1⟩, ⟨11687, 0x3018, 5⟩,
    ⟨11692, 0x301F, 2⟩, ⟨11694, 0x302A, 20⟩, ⟨11714, 0x303F, 2⟩, ⟨11716, 0x3094, 7⟩,
    ⟨11723, 0x309F, 2⟩, ⟨11725, 0x30F7, 5⟩, ⟨11730, 0x30FF, 6⟩, ⟨11736, 0x312A, 246⟩,
    ⟨11982, 0x322A, 7⟩, ⟨11989, 0x3232, 113⟩, ⟨12102, 0x32A4, 234⟩, ⟨12336, 0x3390, 12⟩,
    ⟨12348, 0x339F, 2⟩, ⟨12350, 0x33A2, 34⟩, ⟨12384, 0x33C5, 9⟩, ⟨12393, 0x33CF, 2⟩,
    ⟨12395, 0x33D3, 2⟩, ⟨12397, 0x33D6, 113⟩, ⟨12510, 0x3448, 43⟩, ⟨12553, 0x3474, 298⟩,
    ⟨12851, 0x359F, 111⟩, ⟨12962, 0x360F, 11⟩, ⟨12973, 0x361B, 765⟩, ⟨13738, 0x3919, 85⟩,
    ⟨13823, 0x396F, 96⟩, ⟨13919, 0x39D1, 14⟩, ⟨13933, 0x39E0, 147⟩, ⟨14080, 0x3A74, 218⟩,
    ⟨14298, 0x3B4F, 287⟩, ⟨14585, 0x3C6F, 113⟩, ⟨14698, 0x3CE1, 885⟩, ⟨15583, 0x4057, 264⟩,
    ⟨15847, 0x4160, 471⟩, ⟨16318, 0x4338, 116⟩, ⟨16434, 0x43AD, 4⟩, ⟨16438, 0x43B2, 43⟩,
    ⟨16481, 0x43DE, 248⟩, ⟨16729, 0x44D7, 373⟩, ⟨17102, 0x464D, 20⟩, ⟨17122, 0x4662, 193⟩,
    ⟨17315, 0x4724, 5⟩, ⟨17320, 0x472A, 82⟩, ⟨17402, 0x477D, 16⟩, ⟨17418, 0x478E, 441⟩,
    ⟨17859, 0x4948, 50⟩, ⟨17909, 0x497B, 2⟩, ⟨17911, 0x497E, 4⟩, ⟨17915, 0x4984, 1⟩,
    ⟨17916, 0x4987, 20⟩, ⟨17936, 0x499C, 3⟩, ⟨17939, 0x49A0, 22⟩, ⟨17961, 0x49B8, 703⟩,
    ⟨18664, 0x4C78, 39⟩, ⟨18703, 0x4CA4, 111⟩, ⟨18814, 0x4D1A, 148⟩, ⟨18962, 0x4DAF, 81⟩,
    ⟨19043, 0x9FA6, 14426⟩, ⟨33469, 0xE76C, 1⟩, ⟨33470, 0xE7C8, 1⟩, ⟨33471, 0xE7E7, 13⟩,
    ⟨33484, 0xE815, 1⟩, ⟨33485, 0xE819, 5⟩, ⟨33490, 0xE81F, 7⟩, ⟨33497, 0xE827, 4⟩,
    ⟨33501, 0xE82D, 4⟩, ⟨33505, 0xE833, 8⟩, ⟨33513, 0xE83C, 7⟩, ⟨33520, 0xE844, 16⟩,
    ⟨33536, 0xE856, 14⟩, ⟨33550, 0xE865, 4295⟩, ⟨37845, 0xF92D, 76⟩, ⟨37921, 0xF97A, 27⟩,
    ⟨37948, 0xF996, 81⟩, ⟨38029, 0xF9E8, 9⟩, ⟨38038, 0xF9F2, 26⟩, ⟨38064, 0xFA10, 1⟩,
    ⟨38065, 0xFA12, 1⟩, ⟨38066, 0xFA15, 3⟩, ⟨38069, 0xFA19, 6⟩, ⟨38075, 0xFA22, 1⟩,
    ⟨38076, 0xFA25, 2⟩, ⟨38078, 0xFA2A, 1030⟩, ⟨39108, 0xFE32, 1⟩, ⟨39109, 0xFE45, 4⟩,
    ⟨39113, 0xFE53, 1⟩, ⟨39114, 0xFE58, 1⟩, ⟨39115, 0xFE67, 1⟩, ⟨39116, 0xFE6C, 149⟩,
    ⟨39265, 0xFF5F, 129⟩, ⟨39394, 0xFFE6, 26⟩, ⟨189000, 0x10000, 1048576⟩]

def rangeChar? (pointer : Nat) : Option Char := ranges.findSome? (·.char? pointer)

def rangePointer? (c : Char) : Option Nat := ranges.findSome? (·.pointer? c)

/-- The places of the first two of four bytes, and of the last two. -/
def half : Grid := ⟨.lead, .block 0x30 10⟩

def fourBytes (pointer : Nat) : Bytes :=
  half.bytes (pointer / half.size) ++ half.bytes (pointer % half.size)

/-- Read what follows two bytes that begin four. -/
def readFour (a b : UInt8) : Bytes → List Char × Bytes
  | c :: d :: rest =>
    match half.pointer? a b, half.pointer? c d with
    | some high, some low =>
      ([(rangeChar? (high * half.size + low)).getD Utf8.replacement], rest)
    | _, _ => ([Utf8.replacement], b :: c :: d :: rest)
  -- Content that ends too early is malformed as a whole.
  | [c] => ([Utf8.replacement], if (half.rows.place? c).isSome then [] else [b, c])
  | [] => ([Utf8.replacement], [])

/-! ### Reading and writing -/

def readMore (a : UInt8) : Bytes → List Char × Bytes
  | [] => ([Utf8.replacement], [])
  | b :: rest =>
    if (half.columns.place? b).isSome then readFour a b rest
    else readPair (fun b => ((grid.pointer? a b).bind char?).map ([·])) (b :: rest)

def read (a : UInt8) (rest : Bytes) : List Char × Bytes :=
  if a.toNat < 0x80 then ([Char.ofNat a.toNat], rest)
  else if a = 0x80 then (['€'], rest)
  else if (grid.rows.place? a).isSome then readMore a rest
  else ([Utf8.replacement], rest)

def write? (isShort : Bool) (c : Char) : Option Bytes :=
  if c.toNat < 0x80 then some [UInt8.ofNat c.toNat]
  else if isShort ∧ c = '€' then some [0x80]
  else
    match pointer? c with
    | some p => some (grid.bytes p)
    | none => if isShort then none else (rangePointer? c).map fourBytes

theorem length_readFour_le (a b : UInt8) (bytes : Bytes) :
    (readFour a b bytes).2.length ≤ bytes.length + 1 := by
  unfold readFour
  split
  next =>
    split
    next => simp only [List.length_cons]; omega
    next => simp
  next => dsimp only; split <;> simp
  next => simp

theorem length_readMore_le (a : UInt8) (bytes : Bytes) :
    (readMore a bytes).2.length ≤ bytes.length := by
  unfold readMore
  split
  next => simp
  next b rest =>
    split
    next => exact length_readFour_le a b rest
    next => exact length_readPair_le _ _

theorem length_read_le (a : UInt8) (rest : Bytes) : (read a rest).2.length ≤ rest.length := by
  have more := length_readMore_le a rest
  unfold read
  (repeat' split) <;> simp [more]

/-- The codec of GBK, which is the short one, and of gb18030. -/
def codec (isShort : Bool) : Codec := .stateless read length_read_le (write? isShort)

end Transclusion.Gb18030
