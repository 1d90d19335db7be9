import Transclusion.Charset.Basic
import Transclusion.Proofs.Charset.CodePage
import Transclusion.Proofs.Charset.Gb18030
import Transclusion.Proofs.Charset.Iso2022Jp
import Transclusion.Proofs.Charset.Utf16

/-!
# Round trips

What a charset makes of text that goes out and comes in again. In the charsets of Unicode and in
those of one byte per character, text that can be written is read as it was. The other way round
something may be lost: malformed input is read as replacement characters, and the charsets of
Unicode write these as what they are. A charset gives back exactly the bytes that are well formed,
which is what it writes for some text. One of one byte per character gives back all bytes or none.

## Main results

`decode_of_encode?`: a text that is written is read as the same text.
`encode?_decode_iff`, `encode?_decode_of_isSingleByte`: which bytes are written as they were read.
-/

namespace Transclusion.Charset

/-- Whether a charset has one byte for each character. -/
def isSingleByte : Charset → Bool
  | page _ | userDefined => true
  | _ => false

/-- Whether a charset has all characters. -/
def isUnicode : Charset → Bool
  | utf8 | utf16 _ => true
  | _ => false

/-- Whether bytes are what some text is written as. -/
def WellFormed (c : Charset) (bytes : Bytes) : Prop :=
  ∃ text, c.encode? text = some bytes

private theorem userDefined_of_encode? {text : List Char} {bytes : Bytes}
    (written : encode? userDefined text = some bytes) : decode userDefined bytes = text := by
  refine map_of_mapM (fun c b written => ?_) written
  split_ifs at written with ascii high
  · obtain rfl := Option.some.inj written
    rw [Utf8.toNat_ofNat_of_lt (by omega), if_pos ascii, Char.ofNat_toNat]
  · obtain rfl := Option.some.inj written
    have value : (UInt8.ofNat (c.toNat - 0xF780 + 0x80)).toNat = c.toNat - 0xF780 + 0x80 :=
      Utf8.toNat_ofNat_of_lt (by omega)
    have same : 0xF780 + (c.toNat - 0xF780 + 0x80 - 0x80) = c.toNat := by omega
    rw [value, if_neg (by omega), same, Char.ofNat_toNat]

theorem encode?_decode_userDefined (bytes : Bytes) :
    encode? userDefined (decode userDefined bytes) = some bytes := by
  refine mapM_map_of_forall (fun b => ?_) bytes
  have small := b.toNat_lt
  by_cases ascii : b.toNat < 0x80
  · have value : (Char.ofNat b.toNat).toNat = b.toNat :=
      CodePage.toNat_charOfNat (.inl (by omega))
    rw [if_pos ascii, value, if_pos ascii, UInt8.ofNat_toNat]
  · have value : (Char.ofNat (0xF780 + (b.toNat - 0x80))).toNat = 0xF780 + (b.toNat - 0x80) :=
      CodePage.toNat_charOfNat (.inr (by omega))
    have back : 0xF780 + (b.toNat - 0x80) - 0xF780 + 0x80 = b.toNat := by omega
    rw [if_neg ascii, value, if_neg (by omega), if_pos (by omega), back, UInt8.ofNat_toNat]

/-- The charsets of which a text that is written is read as the same text: those of Unicode, and
those of one byte per character. -/
def IsWhole (c : Charset) : Prop :=
  c.isUnicode = true ∨ c.isSingleByte = true

theorem IsWhole.ne_opaqueText {c : Charset} (whole : c.IsWhole) : c ≠ opaqueText := by
  rintro rfl
  rcases whole with unicode | single
  · cases unicode
  · cases single

theorem decode_of_encode? {c : Charset} (whole : c.IsWhole) {text : List Char} {bytes : Bytes}
    (written : c.encode? text = some bytes) : c.decode bytes = text := by
  cases c with
  | utf8 =>
    obtain rfl := Option.some.inj written
    exact Utf8.decode_encode text
  | utf16 order =>
    obtain rfl := Option.some.inj written
    exact Utf16.decode_encode order text
  | page p => exact CodePage.decode_of_encode? written
  | userDefined => exact userDefined_of_encode? written
  | multiByte | opaqueText => rcases whole with whole | whole <;> cases whole

theorem exists_follows (m : MultiByte) : ∃ follow, m.codec.Follows follow := by
  cases m with
  | gbk => exact ⟨_, Gb18030.follows true⟩
  | gb18030 => exact ⟨_, Gb18030.follows false⟩
  | big5 => exact ⟨_, big5_follows⟩
  | eucJp => exact ⟨_, EucJp.follows⟩
  | iso2022Jp => exact ⟨_, Iso2022Jp.follows⟩
  | shiftJis => exact ⟨_, shiftJis_follows⟩
  | eucKr => exact ⟨_, eucKr_follows⟩

/-- Bytes that a text is written as are written again as they were read. In the charsets of several
bytes per character they may have been read as another text. -/
theorem WellFormed.encode?_decode {c : Charset} {bytes : Bytes} (formed : c.WellFormed bytes)
    (codec : c ≠ opaqueText) : c.encode? (c.decode bytes) = some bytes := by
  obtain ⟨text, written⟩ := formed
  cases c with
  | multiByte m =>
    obtain ⟨follow, follows⟩ := exists_follows m
    exact follows.encode?_decode written
  | opaqueText => exact absurd rfl codec
  | utf8 | utf16 => rw [decode_of_encode? (.inl rfl) written, written]
  | page | userDefined => rw [decode_of_encode? (.inr rfl) written, written]

/-- The bytes that are written as they were read are the well-formed ones. -/
theorem encode?_decode_iff {c : Charset} (codec : c ≠ opaqueText) (bytes : Bytes) :
    c.encode? (c.decode bytes) = some bytes ↔ c.WellFormed bytes :=
  ⟨fun written => ⟨_, written⟩, fun formed => formed.encode?_decode codec⟩

/-- Content that is refused reads as one replacement character, and this is written as UTF-8. -/
theorem encode?_decode_opaqueText_iff (bytes : Bytes) :
    encode? opaqueText (decode opaqueText bytes) = some bytes ↔
      bytes = [] ∨ bytes = [0xEF, 0xBF, 0xBD] := by
  have sign : Utf8.encode [Utf8.replacement] = [0xEF, 0xBF, 0xBD] := by decide
  cases bytes with
  | nil => simp [decode, encode?, Utf8.encode]
  | cons b bytes => simp [decode, encode?, sign, eq_comm]

/-- A charset of one byte per character writes the bytes that it has read, or none. -/
theorem encode?_decode_of_isSingleByte {c : Charset} (single : c.isSingleByte = true)
    (bytes : Bytes) :
    c.encode? (c.decode bytes) = some bytes ∨ c.encode? (c.decode bytes) = none := by
  cases c with
  | page p => exact p.encode?_decode bytes
  | userDefined => exact .inl (encode?_decode_userDefined bytes)
  | utf8 | utf16 | multiByte | opaqueText => cases single

theorem isSome_encode? {c : Charset} (unicode : c.isUnicode = true) (text : List Char) :
    (c.encode? text).isSome = true := by
  cases c with
  | utf8 | utf16 => rfl
  | page | userDefined | multiByte | opaqueText => cases unicode

end Transclusion.Charset
