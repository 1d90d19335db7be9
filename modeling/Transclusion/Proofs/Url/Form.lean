import Transclusion.Proofs.Charset.Utf8
import Transclusion.Proofs.Text.Pieces
import Transclusion.Url.Form

/-!
# Reading back form-coded pairs

Pairs of any texts are written with few signs: letters, digits, a handful of marks, plus signs for
blanks, and percent signs before the two digits of a byte. Neither of the separators is among them,
so a query is cut where it was put together, and each byte is read as it was written.

## Main results

`parse_render`: pairs that are written and read are the same pairs.
`isWritten_of_mem_render`: the signs that a written query consists of.
-/

namespace Transclusion

theorem forall_byte {P : UInt8 → Prop} (checked : ∀ n < 256, P (UInt8.ofNat n)) (b : UInt8) :
    P b := by
  have holds := checked b.toNat b.toNat_lt
  rwa [UInt8.ofNat_toNat] at holds

namespace Percent

variable {c : Char} {cs : List Char}

theorem decode_cons (plain : c ≠ '%') (cs : List Char) :
    decode (c :: cs) = Utf8.encodeChar c ++ decode cs := by
  rw [decode.eq_def]
  split
  · contradiction
  next sign => exact absurd (List.cons.inj sign).1 plain
  next same =>
    obtain ⟨rfl, rfl⟩ := List.cons.inj same
    rfl

theorem decode_of_not_mem (plain : '%' ∉ cs) : decode cs = Utf8.encode cs := by
  induction cs with
  | nil => rfl
  | cons c cs ih =>
    rw [List.mem_cons, not_or] at plain
    rw [decode_cons (Ne.symm plain.1), ih plain.2]
    rfl

theorem digit_eq {n : Nat} (small : n < 16) :
    isHexDigit (digit n) = true ∧ Text.CodeRange.digitValue (digit n) = n := by
  revert n
  decide

/-- A byte that is written with a percent sign is read as itself, whatever follows it. -/
theorem decode_codeByte_append (b : UInt8) (rest : List Char) :
    decode (codeByte b ++ rest) = b :: decode rest := by
  have small : b.toNat < 256 := b.toNat_lt
  obtain ⟨high, highValue⟩ := digit_eq (n := b.toNat / 16) (by omega)
  obtain ⟨low, lowValue⟩ := digit_eq (n := b.toNat % 16) (Nat.mod_lt _ (by omega))
  have halves : b.toNat / 16 * 16 + b.toNat % 16 = b.toNat := by omega
  simp [codeByte, decode, high, low, highValue, lowValue, halves]

theorem encode_of_forall {set : Char → Bool} (plain : ∀ c ∈ cs, set c = false) :
    encode set cs = cs := by
  induction cs with
  | nil => rfl
  | cons c cs ih =>
    obtain ⟨here, rest⟩ := List.forall_mem_cons.1 plain
    simpa [encode, here] using ih rest

end Percent

namespace Form

/-! ### Keys and values -/

/-- A sign that keys and values are written with. -/
def isSign (c : Char) : Bool := c.isAlphanum || "*-._+%".toList.contains c

theorem isSign_of_mem_encodeByte (b : UInt8) : ∀ c ∈ encodeByte b, isSign c = true := by
  rw [← List.all_eq_true]
  revert b
  exact forall_byte (by decide +kernel)

theorem isSign_of_mem_encodeText {s : String} : ∀ c ∈ encodeText s, isSign c = true := by
  intro c member
  obtain ⟨b, -, written⟩ := List.mem_flatMap.1 member
  exact isSign_of_mem_encodeByte b c written

/-- A blank for a plus sign. -/
def unplus (c : Char) : Char := if c = '+' then ' ' else c

/-- A byte that is written as it is stands for itself. -/
theorem encodeByte_plain (b : UInt8) : isPlain b = true →
    unplus (Char.ofNat b.toNat) = Char.ofNat b.toNat ∧ Char.ofNat b.toNat ≠ '%' ∧
      Utf8.encodeChar (Char.ofNat b.toNat) = [b] := by
  revert b
  exact forall_byte (by decide +kernel)

theorem map_unplus_codeByte (b : UInt8) : (Percent.codeByte b).map unplus = Percent.codeByte b := by
  revert b
  exact forall_byte (by decide +kernel)

theorem decode_encodeByte_append (b : UInt8) (rest : List Char) :
    Percent.decode ((encodeByte b).map unplus ++ rest) = b :: Percent.decode rest := by
  unfold encodeByte
  -- A byte is a blank, stands for itself or is coded; only coded ones need a percent sign.
  split
  next blank =>
    subst blank
    exact Percent.decode_cons (by decide) rest
  next =>
    split
    next plain =>
      obtain ⟨kept, unsigned, written⟩ := encodeByte_plain b plain
      rw [List.map_singleton, kept, List.singleton_append, Percent.decode_cons unsigned, written,
        List.singleton_append]
    next => rw [map_unplus_codeByte, Percent.decode_codeByte_append]

theorem decode_encodeBytes (bytes : Bytes) :
    Percent.decode ((bytes.flatMap encodeByte).map unplus) = bytes := by
  induction bytes with
  | nil => rfl
  | cons b bytes ih =>
    rw [List.flatMap_cons, List.map_append, decode_encodeByte_append, ih]

theorem decodeText_encodeText (s : String) : decodeText (encodeText s) = s := by
  change String.ofList (Utf8.decode (Percent.decode ((encodeText s).map unplus))) = s
  rw [encodeText, decode_encodeBytes, Utf8.decode_encode, String.ofList_toList]

/-! ### Pairs -/

/-- A pair as it is written. -/
def renderPair (p : String × String) : List Char := encodeText p.1 ++ '=' :: encodeText p.2

theorem render_eq (ps : Parameters) : render ps = List.intercalate ['&'] (ps.map renderPair) := rfl

theorem isSign_of_mem_renderPair {p : String × String} {c : Char} (member : c ∈ renderPair p) :
    isSign c = true ∨ c = '=' := by
  rw [renderPair, List.mem_append, List.mem_cons] at member
  rcases member with key | rfl | value
  · exact .inl (isSign_of_mem_encodeText c key)
  · exact .inr rfl
  · exact .inl (isSign_of_mem_encodeText c value)

theorem pair_renderPair (p : String × String) : pair (renderPair p) = p := by
  -- Equals signs of the key are coded, so the first one is the one between key and value.
  have free : '=' ∉ encodeText p.1 := fun member => by
    simpa [isSign] using isSign_of_mem_encodeText _ member
  simp only [pair, renderPair, Text.cutChars_append free, decodeText_encodeText]

/-- Pairs that are written and read are the same pairs. -/
theorem parse_render (ps : Parameters) : parse (render ps) = ps := by
  cases ps with
  | nil => rfl
  | cons p ps =>
    have free : ∀ piece ∈ (p :: ps).map renderPair, '&' ∉ piece := by
      simp only [List.forall_mem_map]
      intro q _ member
      simpa [isSign] using isSign_of_mem_renderPair member
    -- Every piece has its equals sign, so none is skipped as empty.
    have kept : ((p :: ps).map renderPair).filter (· ≠ []) = (p :: ps).map renderPair := by
      rw [List.filter_eq_self, List.forall_mem_map]
      simp [renderPair]
    rw [parse, render_eq, Text.splitChars_intercalate (by simp) free, kept, List.map_map]
    simp [Function.comp_def, pair_renderPair]

/-- A sign that a query is written with. -/
def isWritten (c : Char) : Bool := isSign c || c == '=' || c == '&'

theorem isWritten_of_mem_render {ps : Parameters} {c : Char} (member : c ∈ render ps) :
    isWritten c = true := by
  rw [render_eq] at member
  rcases Text.of_mem_intercalate member with rfl | ⟨piece, written, inside⟩
  · rfl
  · obtain ⟨p, -, rfl⟩ := List.mem_map.1 written
    rcases isSign_of_mem_renderPair inside with sign | rfl
    · simp [isWritten, sign]
    · rfl

end Form

end Transclusion
