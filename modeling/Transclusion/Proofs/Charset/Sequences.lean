import Transclusion.Proofs.Charset.RoundTrip

/-!
# Sequences

Each charset writes a character as a sequence of bytes of its own, and a text as the sequences of its
characters in a row. Which lists of bytes are such sequences can be told by their bytes alone. Bytes
that fall into sequences hold no malformed input: they are read without a loss and written again as
they were. In all others something is replaced when they are read, and they are not written again.

## Main results

`sequence_iff`: the sequences are what single characters are written as.
`roundTrips_of_isWhole`: what is written is read, and what is read is written, as it was.
-/

namespace Transclusion

/-! ### UTF-8 -/

namespace Utf8

variable {a b c d : UInt8}

/-- The lists of bytes that stand for one character. -/
inductive Sequence : Bytes → Prop where
  | one {a : UInt8} (ascii : a.toNat < 0x80) : Sequence [a]
  | two {a b : UInt8} (low : 0xC2 ≤ a.toNat) (high : a.toNat < 0xE0) (second : isTail b = true) :
      Sequence [a, b]
  | three {a b c : UInt8} (low : 0xE0 ≤ a.toNat) (high : a.toNat < 0xF0)
      (second : isSecond a.toNat b = true) (third : isTail c = true) : Sequence [a, b, c]
  | four {a b c d : UInt8} (low : 0xF0 ≤ a.toNat) (high : a.toNat < 0xF5)
      (second : isSecond a.toNat b = true) (third : isTail c = true) (fourth : isTail d = true) :
      Sequence [a, b, c, d]

theorem isTail_iff : isTail b = true ↔ 0x80 ≤ b.toNat ∧ b.toNat < 0xC0 := by
  simp [isTail]

theorem isSecond_iff {lead : Nat} : isSecond lead b = true ↔ isTail b = true ∧
    (lead = 0xE0 → 0xA0 ≤ b.toNat) ∧ (lead = 0xED → b.toNat < 0xA0) ∧
    (lead = 0xF0 → 0x90 ≤ b.toNat) ∧ (lead = 0xF4 → b.toNat < 0x90) := by
  unfold isSecond
  rw [Bool.and_eq_true]
  split_ifs <;> simp_all

theorem ofNat_eq {n : Nat} (value : n = a.toNat) : UInt8.ofNat n = a := by
  rw [value, UInt8.ofNat_toNat]

theorem exists_char {n : Nat} (valid : n < 0xD800 ∨ 0xDFFF < n ∧ n < 0x110000) :
    ∃ x : Char, x.toNat = n :=
  ⟨Char.ofNat n, CodePage.toNat_charOfNat valid⟩

theorem exists_encodeChar {s : Bytes} (sequence : Sequence s) : ∃ x, encodeChar x = s := by
  -- The bytes give the number of the character, and its size tells how many bytes there are.
  cases sequence with
  | @one a ascii =>
    obtain ⟨x, value⟩ := exists_char (n := a.toNat) (by omega)
    refine ⟨x, ?_⟩
    rw [encodeChar, value, if_pos ascii, UInt8.ofNat_toNat]
  | @two a b low high second =>
    rw [isTail_iff] at second
    obtain ⟨x, value⟩ := exists_char (n := (a.toNat - 0xC0) * 64 + (b.toNat - 0x80)) (by omega)
    refine ⟨x, ?_⟩
    rw [encodeChar, value, if_neg (by omega), if_pos (by omega), ofNat_eq (a := a) (by omega),
      ofNat_eq (a := b) (by omega)]
  | @three a b c low high second third =>
    obtain ⟨tail, needed, whole, -⟩ := isSecond_iff.1 second
    rw [isTail_iff] at tail third
    obtain ⟨x, value⟩ := exists_char
      (n := ((a.toNat - 0xE0) * 64 + (b.toNat - 0x80)) * 64 + (c.toNat - 0x80)) (by omega)
    refine ⟨x, ?_⟩
    rw [encodeChar, value, if_neg (by omega), if_neg (by omega), if_pos (by omega),
      ofNat_eq (a := a) (by omega), ofNat_eq (a := b) (by omega), ofNat_eq (a := c) (by omega)]
  | @four a b c d low high second third fourth =>
    obtain ⟨tail, -, -, needed, inside⟩ := isSecond_iff.1 second
    rw [isTail_iff] at tail third fourth
    obtain ⟨x, value⟩ := exists_char
      (n := (((a.toNat - 0xF0) * 64 + (b.toNat - 0x80)) * 64 + (c.toNat - 0x80)) * 64 +
        (d.toNat - 0x80)) (by omega)
    refine ⟨x, ?_⟩
    rw [encodeChar, value, if_neg (by omega), if_neg (by omega), if_neg (by omega),
      ofNat_eq (a := a) (by omega), ofNat_eq (a := b) (by omega), ofNat_eq (a := c) (by omega),
      ofNat_eq (a := d) (by omega)]

theorem sequence_encodeChar (x : Char) : Sequence (encodeChar x) := by
  have valid : x.toNat < 0xD800 ∨ 0xDFFF < x.toNat ∧ x.toNat < 0x110000 := x.valid
  unfold encodeChar
  generalize x.toNat = n at valid ⊢
  dsimp only
  split_ifs with one two three
  · have lead : (UInt8.ofNat n).toNat = n := toNat_ofNat_of_lt (by omega)
    exact .one (by omega)
  · have lead : (UInt8.ofNat (0xC0 + n / 64)).toNat = 0xC0 + n / 64 := toNat_ofNat_of_lt (by omega)
    exact .two (by omega) (by omega) (isTail_ofNat (by omega))
  · have lead : (UInt8.ofNat (0xE0 + n / 4096)).toNat = 0xE0 + n / 4096 :=
      toNat_ofNat_of_lt (by omega)
    refine .three (by omega) (by omega) ?_ (isTail_ofNat (by omega))
    rw [lead]
    apply isSecond_ofNat <;> omega
  · have lead : (UInt8.ofNat (0xF0 + n / 262144)).toNat = 0xF0 + n / 262144 :=
      toNat_ofNat_of_lt (by omega)
    refine .four (by omega) (by omega) ?_ (isTail_ofNat (by omega)) (isTail_ofNat (by omega))
    rw [lead]
    apply isSecond_ofNat <;> omega

theorem sequence_iff {s : Bytes} : Sequence s ↔ ∃ x, encodeChar x = s := by
  refine ⟨exists_encodeChar, ?_⟩
  rintro ⟨x, rfl⟩
  exact sequence_encodeChar x

end Utf8

/-! ### UTF-16 -/

namespace Utf16

variable {o : Order} {a b c d : UInt8} {bytes : Bytes}

/-- The lists of bytes that stand for one character: a unit that is no half of a pair, or both
halves of one. -/
inductive Sequence (o : Order) : Bytes → Prop where
  | unit {a b : UInt8} (first : isHigh (o.unit a b) = false) (second : isLow (o.unit a b) = false) :
      Sequence o [a, b]
  | pair {a b c d : UInt8} (first : isHigh (o.unit a b) = true)
      (second : isLow (o.unit c d) = true) : Sequence o [a, b, c, d]

theorem isHigh_iff {u : Nat} : isHigh u = true ↔ 0xD800 ≤ u ∧ u < 0xDC00 := by
  simp [isHigh]

theorem isLow_iff {u : Nat} : isLow u = true ↔ 0xDC00 ≤ u ∧ u < 0xE000 := by
  simp [isLow]

theorem unit_lt : o.unit a b < 0x10000 := by
  have first := a.toNat_lt
  have second := b.toNat_lt
  cases o <;> (simp only [Order.unit]; omega)

theorem bytes_unit : o.bytes (o.unit a b) = [a, b] := by
  have first := a.toNat_lt
  have second := b.toNat_lt
  cases o with
  | little =>
    have low : (a.toNat + 256 * b.toNat) % 256 = a.toNat := by omega
    have high : (a.toNat + 256 * b.toNat) / 256 = b.toNat := by omega
    simp only [Order.bytes, Order.unit, low, high, UInt8.ofNat_toNat]
  | big =>
    have low : (256 * a.toNat + b.toNat) % 256 = b.toNat := by omega
    have high : (256 * a.toNat + b.toNat) / 256 = a.toNat := by omega
    simp only [Order.bytes, Order.unit, low, high, UInt8.ofNat_toNat]

theorem exists_unit (o : Order) {n : Nat} (small : n < 0x10000) :
    ∃ a b, o.bytes n = [a, b] ∧ o.unit a b = n := by
  have low : (UInt8.ofNat (n % 256)).toNat = n % 256 := Utf8.toNat_ofNat_of_lt (by omega)
  have high : (UInt8.ofNat (n / 256)).toNat = n / 256 := Utf8.toNat_ofNat_of_lt (by omega)
  cases o with
  | little =>
    refine ⟨_, _, rfl, ?_⟩
    rw [Order.unit, low, high, Nat.mod_add_div]
  | big =>
    refine ⟨_, _, rfl, ?_⟩
    rw [Order.unit, low, high, Nat.div_add_mod]

theorem exists_unitsOf {s : Bytes} (sequence : Sequence o s) :
    ∃ x, (unitsOf x).flatMap o.bytes = s := by
  cases sequence with
  | @unit a b first second =>
    have small : o.unit a b < 0x10000 := unit_lt
    rw [← Bool.not_eq_true, isHigh_iff] at first
    rw [← Bool.not_eq_true, isLow_iff] at second
    obtain ⟨x, value⟩ := Utf8.exists_char (n := o.unit a b) (by omega)
    refine ⟨x, ?_⟩
    simp only [unitsOf, value, if_pos small, List.flatMap_singleton, bytes_unit]
  | @pair a b c d first second =>
    rw [isHigh_iff] at first
    rw [isLow_iff] at second
    obtain ⟨x, value⟩ := Utf8.exists_char
      (n := 0x10000 + (o.unit a b - 0xD800) * 1024 + (o.unit c d - 0xDC00)) (by omega)
    have one : 0xD800 + (x.toNat - 0x10000) / 1024 = o.unit a b := by omega
    have two : 0xDC00 + (x.toNat - 0x10000) % 1024 = o.unit c d := by omega
    have large : ¬ x.toNat < 0x10000 := by omega
    refine ⟨x, ?_⟩
    simp only [unitsOf, if_neg large, one, two, List.flatMap_cons, List.flatMap_nil, bytes_unit,
      List.cons_append, List.nil_append]

theorem sequence_unitsOf (o : Order) (x : Char) : Sequence o ((unitsOf x).flatMap o.bytes) := by
  have valid : x.toNat < 0xD800 ∨ 0xDFFF < x.toNat ∧ x.toNat < 0x110000 := x.valid
  unfold unitsOf
  generalize x.toNat = n at valid ⊢
  dsimp only
  split_ifs with single
  · obtain ⟨a, b, written, value⟩ := exists_unit o single
    rw [List.flatMap_singleton, written]
    -- No character is half of a pair.
    refine .unit ?_ ?_
    · rw [← Bool.not_eq_true, isHigh_iff]
      omega
    · rw [← Bool.not_eq_true, isLow_iff]
      omega
  · obtain ⟨a, b, one, value⟩ := exists_unit o (n := 0xD800 + (n - 0x10000) / 1024) (by omega)
    obtain ⟨c, d, two, value'⟩ := exists_unit o (n := 0xDC00 + (n - 0x10000) % 1024) (by omega)
    rw [List.flatMap_cons, List.flatMap_singleton, one, two]
    refine .pair ?_ ?_
    · rw [isHigh_iff]
      omega
    · rw [isLow_iff]
      omega

theorem sequence_iff {s : Bytes} : Sequence o s ↔ ∃ x, (unitsOf x).flatMap o.bytes = s := by
  refine ⟨exists_unitsOf, ?_⟩
  rintro ⟨x, rfl⟩
  exact sequence_unitsOf o x

theorem eq_nil_of_units (units : units o bytes = ([], false)) : bytes = [] := by
  match bytes with
  | [] => rfl
  | [_] | _ :: _ :: _ => cases units

theorem eq_cons_of_units {u : Nat} {us : List Nat} {odd : Bool}
    (units : units o bytes = (u :: us, odd)) :
    ∃ a b rest, bytes = a :: b :: rest ∧ o.unit a b = u ∧ Utf16.units o rest = (us, odd) := by
  match bytes with
  | [] | [_] => cases units
  | a :: b :: rest =>
    cases units
    exact ⟨a, b, rest, rfl, rfl, rfl⟩

end Utf16

namespace Charset

/-! ### All charsets -/

/-- The lists of bytes that stand for one character of a charset. The charsets of several bytes per
character are left out: in them, what stands for a character can depend on what came before. -/
def Sequence : Charset → Bytes → Prop
  | utf8, s => Utf8.Sequence s
  | utf16 order, s => Utf16.Sequence order s
  | page p, s => ∃ b, s = [b] ∧ CodePage.charOf p.upper.toArray b ≠ Utf8.replacement
  | userDefined, s => ∃ b, s = [b]
  | multiByte _, _ | opaqueText, _ => False

/-- The bytes without malformed input, which are sequences one after the other. -/
inductive Clean (c : Charset) : Bytes → Prop where
  | nil : Clean c []
  | append {s rest : Bytes} (first : c.Sequence s) (others : Clean c rest) : Clean c (s ++ rest)

/-- Whether a character belongs to a charset, so that some sequence stands for it. -/
def Has (c : Charset) (x : Char) : Prop :=
  ∃ s, c.Sequence s ∧ c.decode s = [x]

variable {c : Charset} {x : Char} {s bytes : Bytes} {text : List Char}

theorem encode?_nil (whole : c.IsWhole) : c.encode? [] = some [] := by
  cases c with
  | utf8 | utf16 | page | userDefined => rfl
  | multiByte | opaqueText => rcases whole with whole | whole <;> cases whole

theorem mapM_singleton {write : Char → Option UInt8} :
    [x].mapM write = some s ↔ ∃ b, write x = some b ∧ s = [b] := by
  simp only [List.mapM_cons, List.mapM_nil, Option.bind_eq_bind, Option.pure_def,
    Option.bind_some, Option.bind_eq_some_iff, Option.some.injEq]
  exact exists_congr fun b => and_congr_right fun _ => eq_comm

theorem mapM_cons_eq {write : Char → Option UInt8} :
    (x :: text).mapM write =
      ([x].mapM write).bind fun s => (text.mapM write).map (s ++ ·) := by
  simp only [List.mapM_cons, List.mapM_nil, Option.bind_eq_bind, Option.pure_def]
  cases write x <;> cases text.mapM write <;> rfl

/-- Text is written character by character. -/
theorem encode?_cons (whole : c.IsWhole) (x : Char) (text : List Char) :
    c.encode? (x :: text) = (c.encode? [x]).bind fun s => (c.encode? text).map (s ++ ·) := by
  cases c with
  | utf8 => simp [encode?, Utf8.encode]
  | utf16 order => simp [encode?, Utf16.encode]
  | page | userDefined => exact mapM_cons_eq
  | multiByte | opaqueText => rcases whole with whole | whole <;> cases whole

/-- The sequences are what single characters are written as. -/
theorem sequence_iff (whole : c.IsWhole) : c.Sequence s ↔ ∃ x, c.encode? [x] = some s := by
  cases c with
  | utf8 =>
    simp only [Sequence, encode?, Utf8.encode, List.flatMap_singleton, Option.some.injEq]
    exact Utf8.sequence_iff
  | utf16 order =>
    simp only [Sequence, encode?, Utf16.encode, List.flatMap_singleton, Option.some.injEq]
    exact Utf16.sequence_iff
  | page p =>
    simp only [Sequence, encode?, CodePage.encode?, mapM_singleton]
    constructor
    · rintro ⟨b, rfl, known⟩
      exact ⟨_, b, CodePage.byteOf?_charOf_of_ne known, rfl⟩
    · rintro ⟨x, b, written, rfl⟩
      refine ⟨b, rfl, ?_⟩
      rw [CodePage.charOf_of_byteOf? written]
      rintro rfl
      rw [CodePage.byteOf?_replacement] at written
      cases written
  | userDefined =>
    constructor
    · rintro ⟨b, rfl⟩
      exact ⟨_, encode?_decode_userDefined [b]⟩
    · rintro ⟨x, written⟩
      obtain ⟨b, -, rfl⟩ := mapM_singleton.1 written
      exact ⟨b, rfl⟩
  | multiByte | opaqueText => rcases whole with whole | whole <;> cases whole

/-- The bytes without malformed input are what texts are written as. -/
theorem clean_iff (whole : c.IsWhole) : c.Clean bytes ↔ c.WellFormed bytes := by
  constructor
  · intro clean
    induction clean with
    | nil => exact ⟨[], encode?_nil whole⟩
    | append first _ ih =>
      obtain ⟨x, written⟩ := (sequence_iff whole).1 first
      obtain ⟨text, others⟩ := ih
      refine ⟨x :: text, ?_⟩
      rw [encode?_cons whole, written, others]
      rfl
  · rintro ⟨text, written⟩
    induction text generalizing bytes with
    | nil =>
      rw [encode?_nil whole] at written
      obtain rfl := Option.some.inj written
      exact .nil
    | cons x text ih =>
      rw [encode?_cons whole] at written
      obtain ⟨s, first, rest⟩ := Option.bind_eq_some_iff.1 written
      obtain ⟨others, last, rfl⟩ := Option.map_eq_some_iff.1 rest
      exact .append ((sequence_iff whole).2 ⟨x, first⟩) (ih last)

/-! ### Malformed input

What the decoders replace is what does not fall into sequences.
-/

theorem Clean.of_utf8 (unreplaced : Utf8.replacement ∉ Utf8.decode bytes) : Clean utf8 bytes := by
  fun_induction Utf8.decode bytes
  -- The cases with a name are the end and those in which a whole sequence is read.
  case case1 => exact .nil
  case case2 a rest ascii ih =>
    exact .append (s := [a]) (.one ascii) (ih (List.not_mem_of_not_mem_cons unreplaced))
  case case5 a _ low high b rest second ih =>
    exact .append (s := [a, b]) (.two (Nat.not_lt.1 low) high second)
      (ih (List.not_mem_of_not_mem_cons unreplaced))
  case case9 a _ _ low high b second c rest third ih =>
    exact .append (s := [a, b, c]) (.three (Nat.not_lt.1 low) high second third)
      (ih (List.not_mem_of_not_mem_cons unreplaced))
  case case15 a _ _ _ low high b second c third d rest fourth ih =>
    exact .append (s := [a, b, c, d]) (.four (Nat.not_lt.1 low) high second third fourth)
      (ih (List.not_mem_of_not_mem_cons unreplaced))
  -- In all other cases some byte was replaced.
  all_goals exact absurd List.mem_cons_self unreplaced

theorem Clean.of_units {o : Utf16.Order} {odd : Bool} {us : List Nat}
    (unreplaced : Utf8.replacement ∉ Utf16.ofUnits odd us)
    (units : Utf16.units o bytes = (us, odd)) : Clean (utf16 o) bytes := by
  fun_induction Utf16.ofUnits odd us generalizing bytes
  case case2 even =>
    rw [Bool.not_eq_true] at even
    subst even
    obtain rfl := Utf16.eq_nil_of_units units
    exact .nil
  case case4 _ first _ _ second ih =>
    obtain ⟨a, b, _, rfl, rfl, rest⟩ := Utf16.eq_cons_of_units units
    obtain ⟨c, d, _, rfl, rfl, others⟩ := Utf16.eq_cons_of_units rest
    exact .append (s := [a, b, c, d]) (.pair first second)
      (ih (List.not_mem_of_not_mem_cons unreplaced) others)
  case case7 first second ih =>
    obtain ⟨a, b, _, rfl, rfl, others⟩ := Utf16.eq_cons_of_units units
    rw [Bool.not_eq_true] at first second
    exact .append (s := [a, b]) (.unit first second)
      (ih (List.not_mem_of_not_mem_cons unreplaced) others)
  -- Half a pair, or half a unit at the end, was replaced.
  all_goals exact absurd List.mem_cons_self unreplaced

/-- Bytes of which nothing is replaced hold no malformed input. -/
theorem Clean.of_decode (whole : c.IsWhole) (unreplaced : Utf8.replacement ∉ c.decode bytes) :
    c.Clean bytes := by
  cases c with
  | utf8 => exact .of_utf8 unreplaced
  | utf16 o => exact .of_units unreplaced rfl
  | page p =>
    induction bytes with
    | nil => exact .nil
    | cons b bytes ih =>
      rw [decode, CodePage.decode, List.map_cons, List.mem_cons, not_or] at unreplaced
      exact .append (s := [b]) ⟨b, rfl, Ne.symm unreplaced.1⟩ (ih unreplaced.2)
  | userDefined =>
    induction bytes with
    | nil => exact .nil
    | cons b bytes ih =>
      exact .append (s := [b]) ⟨b, rfl⟩ (ih (List.not_mem_of_not_mem_cons unreplaced))
  | multiByte | opaqueText => rcases whole with whole | whole <;> cases whole

/-! ### Round trips -/

/-- The characters of a charset are those that it writes. -/
theorem has_iff (whole : c.IsWhole) : c.Has x ↔ c.encode? [x] ≠ none := by
  rw [Option.ne_none_iff_exists']
  constructor
  · rintro ⟨s, sequence, read⟩
    obtain ⟨y, written⟩ := (sequence_iff whole).1 sequence
    rw [decode_of_encode? whole written] at read
    obtain rfl := List.singleton_inj.1 read
    exact ⟨s, written⟩
  · rintro ⟨s, written⟩
    exact ⟨s, (sequence_iff whole).2 ⟨x, written⟩, decode_of_encode? whole written⟩

/-- A text is not written exactly if one of its characters is not. -/
theorem encode?_eq_none_iff (whole : c.IsWhole) :
    c.encode? text = none ↔ ∃ x ∈ text, c.encode? [x] = none := by
  induction text with
  | nil => simp [encode?_nil whole]
  | cons x text ih =>
    rw [encode?_cons whole]
    simp only [List.mem_cons, exists_eq_or_imp, ← ih]
    cases c.encode? [x] <;> simp

/-- What a charset makes of texts that are written and of bytes that are read. -/
structure RoundTrips (c : Charset) : Prop where
  /-- A text that is written is read as it was, so no substitute was written for any of it. -/
  decode_written {text : List Char} {bytes : Bytes} (written : c.encode? text = some bytes) :
    c.decode bytes = text
  /-- A text is refused for a character that is outside the charset, and for nothing else. -/
  refused_iff (text : List Char) : c.encode? text = none ↔ ∃ x ∈ text, ¬ c.Has x
  /-- A charset of Unicode refuses no text. -/
  written_of_isUnicode (unicode : c.isUnicode = true) (text : List Char) :
    ∃ bytes, c.encode? text = some bytes
  /-- Bytes are written as they were read exactly if they hold no malformed input. -/
  encode_read_iff (bytes : Bytes) : c.encode? (c.decode bytes) = some bytes ↔ c.Clean bytes
  /-- Malformed input is replaced. -/
  replaced {bytes : Bytes} (malformed : ¬ c.Clean bytes) : Utf8.replacement ∈ c.decode bytes

theorem roundTrips_of_isWhole (whole : c.IsWhole) : c.RoundTrips where
  decode_written := decode_of_encode? whole
  refused_iff text := by
    rw [encode?_eq_none_iff whole]
    simp only [has_iff whole, ne_eq, Classical.not_not]
  written_of_isUnicode unicode text := Option.isSome_iff_exists.1 (isSome_encode? unicode text)
  encode_read_iff bytes := by
    rw [clean_iff whole]
    exact ⟨fun written => ⟨_, written⟩, fun formed => formed.encode?_decode whole.ne_opaqueText⟩
  replaced malformed := Classical.byContradiction fun unreplaced =>
    malformed (.of_decode whole unreplaced)

/-- A byte order mark is a sequence like others, so it is read and written as part of the text. -/
theorem roundTrips_of_isWhole_mark :
    utf8.IsWhole ∧ utf8.decode [0xEF, 0xBB, 0xBF, 0x41] = ['\ufeff', 'A'] ∧
      utf8.encode? (utf8.decode [0xEF, 0xBB, 0xBF, 0x41]) = some [0xEF, 0xBB, 0xBF, 0x41] := by
  have mark : Utf8.Sequence [0xEF, 0xBB, 0xBF] :=
    .three (by decide) (by decide) (by decide) (by decide)
  have letter : Utf8.Sequence [0x41] := .one (by decide)
  refine ⟨.inl rfl, by decide, ?_⟩
  exact ((roundTrips_of_isWhole (.inl rfl)).encode_read_iff _).2
    (.append (s := [0xEF, 0xBB, 0xBF]) mark (.append (s := [0x41]) letter .nil))

end Charset
end Transclusion
