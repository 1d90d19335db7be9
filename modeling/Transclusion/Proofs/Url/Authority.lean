import Transclusion.Proofs.Url.Form
import Transclusion.Url.Basic

/-!
# Hosts of letters

A host of ASCII letters is a domain that is no address: all that happens to it is that its capitals
become small. In an authority it is not taken for a user or a port either, and the path starts at the
slash behind it.

## Main results

`Host.parse_of_letters`, `Url.authority_of_letters`: a host of letters by itself and before a path.
-/

namespace Transclusion

/-- What holds of the ASCII characters of a set holds of the set if it has no others. -/
theorem forall_of_ascii {set : Char → Bool} {P : Char → Prop}
    (ascii : ∀ c, set c = true → c.toNat < 128)
    (checked : ∀ n < 128, set (Char.ofNat n) = true → P (Char.ofNat n)) (c : Char)
    (member : set c = true) : P c := by
  have holds := checked c.toNat (ascii c member)
  rw [Char.ofNat_toNat] at holds
  exact holds member

theorem toNat_lt_of_isAlphanum (c : Char) (sign : c.isAlphanum = true) : c.toNat < 128 := by
  change ((decide (c.val ≥ 65 ∧ c.val ≤ 90) || (decide (c.val ≥ 97) && c.val ≤ 122)) ||
    (decide (c.val ≥ 48) && c.val ≤ 57)) = true at sign
  simp [UInt32.le_iff_toNat_le] at sign
  have same : c.val.toNat = c.toNat := rfl
  omega

theorem toNat_lt_of_isAlpha (c : Char) (letter : c.isAlpha = true) : c.toNat < 128 :=
  toNat_lt_of_isAlphanum c (by simp [Char.isAlphanum, letter])

namespace Host

variable {cs : List Char}

theorem mapChar_of_isAlpha : ∀ c : Char, c.isAlpha = true →
    mapChar c = [c.toLower] ∧ c.toLower.isAlpha = true :=
  forall_of_ascii toNat_lt_of_isAlpha (by decide +kernel)

/-- A letter is neither forbidden in a domain nor a mark or a digit. -/
theorem domain_of_isAlpha : ∀ c : Char, c.isAlpha = true →
    isForbiddenInDomain c = false ∧ c.isDigit = false ∧ c ≠ '-' ∧ c ≠ '.' ∧ c ≠ '%' ∧
      (Percent.isHexDigit c && Text.CodeRange.digitValue c < 10) = false :=
  forall_of_ascii toNat_lt_of_isAlpha (by decide +kernel)

theorem labelToAscii_of_letters (letters : ∀ c ∈ cs, c.isAlpha = true) :
    labelToAscii cs = .ok cs := by
  -- What marks a label as encoded holds hyphens.
  have unmarked : Text.afterChars "xn--".toList cs = none := by
    rw [Option.eq_none_iff_forall_ne_some]
    intro rest found
    have hyphen : '-' ∈ cs := by simp [Text.afterChars_eq_some_iff.1 found]
    exact (domain_of_isAlpha _ (letters _ hyphen)).2.2.1 rfl
  have ascii : cs.all (·.toNat < 0x80) = true := by
    rw [List.all_eq_true]
    exact fun c member => decide_eq_true (toNat_lt_of_isAlpha c (letters c member))
  simp only [labelToAscii, unmarked, ascii, if_true]

theorem domainToAscii_of_letters (letters : ∀ c ∈ cs, c.isAlpha = true) :
    domainToAscii (Utf8.encode cs) = .ok (cs.map Char.toLower) := by
  have small : ∀ c ∈ cs.map Char.toLower, c.isAlpha = true := by
    rw [List.forall_mem_map]
    exact fun c member => (mapChar_of_isAlpha c (letters c member)).2
  have mapped : cs.flatMap mapChar = cs.map Char.toLower := by
    rw [List.map_eq_flatMap, List.flatMap_def, List.flatMap_def,
      List.map_congr_left fun c member => (mapChar_of_isAlpha c (letters c member)).1]
  -- Without a dot the domain is a single label.
  have single : Text.splitChars '.' (cs.map Char.toLower) = [cs.map Char.toLower] :=
    Text.splitChars_of_not_mem fun dot => (domain_of_isAlpha _ (small _ dot)).2.2.2.1 rfl
  have allowed : (cs.map Char.toLower).any isForbiddenInDomain = false := by
    rw [List.any_eq_false]
    exact fun c member => by simp [(domain_of_isAlpha c (small c member)).1]
  simp [domainToAscii, Utf8.decode_encode, mapped, single, labelToAscii_of_letters small,
    allowed, List.intercalate, bind, Except.bind, pure, Except.pure]

theorem endsInNumber_of_letters (named : cs ≠ []) (letters : ∀ c ∈ cs, c.isAlpha = true) :
    endsInNumber cs = false := by
  have single : Text.splitChars '.' cs = [cs] :=
    Text.splitChars_of_not_mem fun dot => (domain_of_isAlpha _ (letters _ dot)).2.2.2.1 rfl
  obtain ⟨c, rest, rfl⟩ := List.exists_cons_of_ne_nil named
  obtain ⟨-, undigit, -, -, -, undecimal⟩ := domain_of_isAlpha c (letters c List.mem_cons_self)
  -- The other bases are told by a zero in front, and to base ten a letter is no digit.
  have unzero : c ≠ '0' := fun zero => by simp [zero] at undigit
  have unread : number? 10 (c :: rest) = none := by
    rw [number?, List.all_cons, undecimal, Bool.false_and, if_neg Bool.false_ne_true]
  have unaddressed : ipv4Part? (c :: rest) = none := by
    rw [ipv4Part?.eq_def]
    split <;> simp_all
  simp [endsInNumber, parts, single, undigit, unaddressed]

/-- A host of letters is the domain of these letters, in small ones. -/
theorem parse_of_letters (named : cs ≠ []) (letters : ∀ c ∈ cs, c.isAlpha = true) :
    parse cs = .ok (.name (String.ofList (cs.map Char.toLower))) := by
  have uncoded : '%' ∉ cs := fun sign => (domain_of_isAlpha _ (letters _ sign)).2.2.2.2.1 rfl
  have small : ∀ c ∈ cs.map Char.toLower, c.isAlpha = true := by
    rw [List.forall_mem_map]
    exact fun c member => (mapChar_of_isAlpha c (letters c member)).2
  have unnumbered := endsInNumber_of_letters (by simpa using named) small
  unfold parse
  split
  next => exact absurd (letters '[' List.mem_cons_self) (by decide)
  next =>
    simp [Percent.decode_of_not_mem uncoded, domainToAscii_of_letters letters, named, unnumbered,
      bind, Except.bind]

end Host

namespace Url

/-- A letter separates nothing in an authority. -/
theorem authority_of_isAlpha : ∀ c : Char, c.isAlpha = true →
    isSlash true c = false ∧ c ≠ ':' ∧ c ≠ '@' ∧ c ≠ '[' ∧ c ≠ ']' :=
  forall_of_ascii toNat_lt_of_isAlpha (by decide +kernel)

theorem cutPort_of_letters {cs : List Char} (letters : ∀ c ∈ cs, c.isAlpha = true) :
    cutPort false cs = (cs, []) := by
  induction cs with
  | nil => rfl
  | cons c cs ih =>
    obtain ⟨here, rest⟩ := List.forall_mem_cons.1 letters
    obtain ⟨-, colon, -, opening, closing⟩ := authority_of_isAlpha c here
    simp [cutPort, colon, opening, closing, ih rest]

/-- An authority of letters ends at the slash that the path starts with. -/
theorem authority_of_letters {scheme : String} (special : isSpecial scheme = true)
    {host : List Char} (named : host ≠ []) (letters : ∀ c ∈ host, c.isAlpha = true) (s : Split)
    (cs : List Char) :
    authority scheme s (host ++ '/' :: cs) =
      .ok ⟨scheme, "", "", some (.name (String.ofList (host.map Char.toLower))), none,
        readPath true [] cs, s.codedQuery true, s.codedFragment⟩ := by
  have unslashed : ∀ c ∈ host, (!isSlash true c) = true := fun c member => by
    simp [(authority_of_isAlpha c (letters c member)).1]
  have slash : isSlash true '/' = true := rfl
  -- The host is all that stands before the slash: without an at sign there is no user, and without a
  -- colon no port.
  have front : (host ++ '/' :: cs).takeWhile (fun c => !isSlash true c) = host := by
    rw [List.takeWhile_append_of_pos unslashed, List.takeWhile_cons_of_neg (by simp [slash]),
      List.append_nil]
  have rest : (host ++ '/' :: cs).dropWhile (fun c => !isSlash true c) = '/' :: cs := by
    rw [List.dropWhile_append_of_pos unslashed, List.dropWhile_cons_of_neg (by simp [slash])]
  have userless : cutLast '@' host = none := by
    have free : '@' ∉ host.reverse := fun sign =>
      (authority_of_isAlpha _ (letters _ (List.mem_reverse.1 sign))).2.2.1 rfl
    rw [cutLast, Text.cutChars_of_not_mem free]
    rfl
  have anonymous : userInfo [] = ("", "") := rfl
  simp [authority, special, front, rest, userless, anonymous, cutPort_of_letters letters, named,
    Host.parse_of_letters named letters, slash, bind, Except.bind]

end Url

end Transclusion
