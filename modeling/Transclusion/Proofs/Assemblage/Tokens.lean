import Mathlib.Data.List.Basic
import Transclusion.Assemblage
import Transclusion.Proofs.Pattern.Template

/-!
# Tokens

The tokens of a template are found by searching for each of them in turn. A search that starts
inside a text comes out behind it without a hit if the token does not stand in the text and does not
begin at its end. So tokens can be cut out of a template all at once, and what is found later is
what had been there from the start, as long as nothing written meanwhile is such a token.

## Main results

`replaced_append_of_free`: a search for a token passes over a text.
`Tokenized.chars_ofTemplate`, `Tokenized.isCut_ofTemplate`: a template cut at its tokens.
-/

namespace Transclusion

namespace Text

variable {old new cs xs ys : List Char} {c : Char}

theorem replaceChars_eq (nonempty : old ≠ []) {n m : Nat} (enough : cs.length ≤ n)
    (enough' : cs.length ≤ m) : replaceChars old new n cs = replaceChars old new m cs := by
  induction n generalizing m cs with
  | zero =>
    obtain rfl := List.length_eq_zero_iff.1 (Nat.le_zero.1 enough)
    cases m <;> rfl
  | succ n ih =>
    cases cs with
    | nil => cases m <;> rfl
    | cons c cs =>
      cases m with
      | zero => cases enough'
      | succ m =>
        rw [replaceChars, replaceChars]
        rw [List.length_cons] at enough enough'
        cases found : afterChars old (c :: cs) with
        | none => exact congrArg _ (ih (by omega) (by omega))
        | some rest =>
          have lengths := congrArg List.length (afterChars_eq_some_iff.1 found)
          have taken := List.length_pos_iff.2 nonempty
          rw [List.length_cons, List.length_append] at lengths
          exact congrArg _ (ih (by omega) (by omega))

def replaced (old new cs : List Char) : List Char := replaceChars old new cs.length cs

theorem replaceText_eq (old new s : String) :
    replaceText old new s = String.ofList (replaced old.toList new.toList s.toList) := rfl

theorem replaced_append_old (nonempty : old ≠ []) (rest : List Char) :
    replaced old new (old ++ rest) = new ++ replaced old new rest := by
  have found : afterChars old (old ++ rest) = some rest := afterChars_eq_some_iff.2 rfl
  cases old with
  | nil => exact absurd rfl nonempty
  | cons c old =>
    rw [List.cons_append] at found ⊢
    rw [replaced, List.length_cons, replaceChars, found]
    refine congrArg _ (replaceChars_eq nonempty ?_ (Nat.le_refl _))
    rw [List.length_append]
    exact Nat.le_add_left _ _

theorem replaced_cons (missed : ¬ old <+: c :: cs) :
    replaced old new (c :: cs) = c :: replaced old new cs := by
  have other : afterChars old (c :: cs) = none := by
    cases found : afterChars old (c :: cs) with
    | none => rfl
    | some rest => exact absurd ⟨rest, (afterChars_eq_some_iff.1 found).symm⟩ missed
  rw [replaced, List.length_cons, replaceChars, other]
  rfl

/-- A search passes over a list in which no occurrence begins. -/
theorem replaced_append (missed : ∀ b, b ≠ [] → b <:+ xs → ¬ old <+: b ++ ys) :
    replaced old new (xs ++ ys) = xs ++ replaced old new ys := by
  induction xs with
  | nil => rfl
  | cons c xs ih =>
    have here := missed (c :: xs) (List.cons_ne_nil c xs) (List.suffix_refl _)
    have later := ih fun b some suffix => missed b some (suffix.trans (List.suffix_cons c xs))
    rw [List.cons_append] at here ⊢
    rw [replaced_cons here, later]
    rfl

end Text

namespace Template

variable {p cs : List Char}

theorem prefix_of_prefix_doubled (plain : '$' ∉ p) (within : p <+: doubled cs) : p <+: cs := by
  induction p generalizing cs with
  | nil => exact List.nil_prefix
  | cons d p ih =>
    rw [List.mem_cons, not_or] at plain
    cases cs with
    | nil => cases List.prefix_nil.1 within
    | cons c cs =>
      by_cases dollar : c = '$'
      · rw [dollar, doubled_dollar, List.cons_prefix_cons] at within
        exact absurd within.1.symm plain.1
      · rw [doubled_plain dollar, List.cons_prefix_cons] at within
        exact List.cons_prefix_cons.2 ⟨within.1, ih plain.2 within.2⟩

theorem infix_of_infix_cons {c : Char} (absent : c ∉ p) (within : p <:+: c :: cs) : p <:+: cs := by
  rcases List.infix_cons_iff.1 within with first | later
  · rcases List.prefix_cons_iff.1 first with rfl | ⟨t, rfl, -⟩
    · exact List.nil_infix
    · exact absurd List.mem_cons_self absent
  · exact later

theorem infix_of_infix_doubled (plain : '$' ∉ p) (within : p <:+: doubled cs) : p <:+: cs := by
  induction cs with
  | nil => exact within
  | cons c cs ih =>
    by_cases dollar : c = '$'
    · rw [dollar, doubled_dollar] at within
      have behind := infix_of_infix_cons plain (infix_of_infix_cons plain within)
      exact List.infix_cons (ih behind)
    · rw [doubled_plain dollar, List.infix_cons_iff] at within
      rcases within with first | later
      · rw [← doubled_plain dollar] at first
        exact (prefix_of_prefix_doubled plain first).isInfix
      · exact List.infix_cons (ih later)

theorem reverse_doubled (cs : List Char) : (doubled cs).reverse = doubled cs.reverse := by
  induction cs with
  | nil => rfl
  | cons c cs ih =>
    rw [List.reverse_cons, doubled_append, ← ih]
    by_cases dollar : c = '$'
    · simp [dollar]
    · simp [dollar]

theorem dropWhile_isDigit_doubled (cs : List Char) :
    (doubled cs).dropWhile Char.isDigit = doubled (cs.dropWhile Char.isDigit) := by
  induction cs with
  | nil => rfl
  | cons c cs ih =>
    by_cases dollar : c = '$'
    · subst dollar
      rfl
    · cases digit : c.isDigit with
      | true => simp [dollar, digit, ih]
      | false => simp [dollar, digit]

theorem head?_doubled (cs : List Char) : (doubled cs).head? = cs.head? := by
  cases cs with
  | nil => rfl
  | cons c cs =>
    by_cases dollar : c = '$'
    · simp [dollar]
    · simp [dollar]

end Template

namespace Assemblage

variable {j k n : Nat} {cs xs ys new : List Char}

theorem toList_token (k : Nat) : (token k).toList = '\x7b' :: (Nat.toDigits 10 k ++ ['\x7d']) := by
  simp only [token, String.toList_append, Nat.toString_eq_repr, Nat.toList_repr]
  rfl

theorem token_ne_nil (k : Nat) : (token k).toList ≠ [] := by
  rw [toList_token]
  exact List.cons_ne_nil _ _

theorem isDigit_of_mem {c : Char} (member : c ∈ Nat.toDigits 10 k) : c.isDigit = true :=
  Nat.isDigit_of_mem_toDigits (by decide) (by decide) member

theorem not_mem_token {c : Char} (digit : c.isDigit = false) (opening : c ≠ '\x7b')
    (closing : c ≠ '\x7d') : c ∉ (token k).toList := by
  rw [toList_token]
  intro member
  rcases List.mem_cons.1 member with first | member
  · exact opening first
  · rcases List.mem_append.1 member with within | last
    · rw [isDigit_of_mem within] at digit
      cases digit
    · exact closing (List.mem_singleton.1 last)

theorem eq_of_prefix_token (within : (token k).toList <+: (token j).toList ++ cs) : k = j := by
  obtain ⟨rest, same⟩ := within
  rw [toList_token, toList_token] at same
  have digits : Nat.toDigits 10 k ++ '\x7d' :: rest = Nat.toDigits 10 j ++ '\x7d' :: cs := by
    simpa using same
  have absent : ∀ i, '\x7d' ∉ Nat.toDigits 10 i := by
    intro i member
    cases isDigit_of_mem member
  -- The digits are what stands before the first closing brace.
  have cut := congrArg (Text.cutChars '\x7d') digits
  rw [Text.cutChars_append (absent k), Text.cutChars_append (absent j)] at cut
  have equal := (Prod.mk.inj (Option.some.inj cut)).1
  rw [← @Nat.ofDigitChars_ten_toDigits k, equal, Nat.ofDigitChars_ten_toDigits]

/-- Whether a text ends with the beginning of a token. -/
def OpensToken (cs : List Char) : Prop :=
  (cs.reverse.dropWhile Char.isDigit).head? = some '\x7b'

instance : DecidablePred OpensToken := fun _ => inferInstanceAs (Decidable (_ = _))

theorem opensToken_of_suffix {digits : List Char} (suffix : '\x7b' :: digits <:+ cs)
    (all : ∀ d ∈ digits, d.isDigit = true) : OpensToken cs := by
  obtain ⟨before, rfl⟩ := suffix
  have passed : ∀ d ∈ digits.reverse, d.isDigit = true := by
    intro d member
    exact all d (List.mem_reverse.1 member)
  rw [OpensToken, List.reverse_append, List.reverse_cons, List.append_assoc,
    List.dropWhile_append_of_pos passed]
  rfl

theorem opensToken_doubled : OpensToken (Template.doubled cs) ↔ OpensToken cs := by
  unfold OpensToken
  rw [Template.reverse_doubled, Template.dropWhile_isDigit_doubled, Template.head?_doubled]

theorem not_opensToken_token (k : Nat) : ¬ OpensToken (token k).toList := by
  rw [OpensToken, toList_token, List.reverse_cons, List.reverse_append]
  intro same
  cases same

theorem token_infix_token (within : (token k).toList <:+: (token j).toList) : k = j := by
  rw [toList_token j, List.infix_cons_iff, ← toList_token] at within
  rcases within with first | later
  · apply eq_of_prefix_token
    rw [List.append_nil]
    exact first
  · -- There is no other opening brace.
    have opening : '\x7b' ∈ (token k).toList := by
      rw [toList_token]
      exact List.mem_cons_self
    rcases List.mem_append.1 (later.subset opening) with digit | last
    · cases isDigit_of_mem digit
    · cases List.mem_singleton.1 last

/-- A search for a token passes over a text in which the token does not stand, if the text does not
end with the beginning of a token or if that cannot go on. -/
theorem replaced_append_of_free (free : ¬ (token k).toList <:+: xs)
    (shut : OpensToken xs → ∀ c ∈ ys.head?, c = '\x7b') :
    Text.replaced (token k).toList new (xs ++ ys) =
      xs ++ Text.replaced (token k).toList new ys := by
  apply Text.replaced_append
  intro b some suffix found
  -- A token that begins inside the text ends there, or it goes on behind the text.
  rcases List.prefix_or_prefix_of_prefix found (List.prefix_append b ys) with whole | part
  · exact free (whole.isInfix.trans suffix.isInfix)
  · obtain ⟨rest, split⟩ := part
    cases rest with
    | nil =>
      rw [List.append_nil] at split
      exact free (split ▸ suffix.isInfix)
    | cons d rest =>
      rw [← split, List.prefix_append_right_inj] at found
      have next : ys.head? = .some d := by
        obtain ⟨more, rfl⟩ := found
        rfl
      cases b with
      | nil => exact some rfl
      | cons c b =>
        rw [toList_token, List.cons_append, List.cons.injEq] at split
        obtain ⟨rfl, split⟩ := split
        -- The closing brace is behind the text, so there are only digits in front of its end.
        have digits : ∀ e ∈ b, e.isDigit = true := by
          have lengths := congrArg List.length split
          simp only [List.length_append, List.length_cons, List.length_nil] at lengths
          have inside : b <+: Nat.toDigits 10 k :=
            List.prefix_of_prefix_length_le ⟨d :: rest, split⟩ (List.prefix_append _ _) (by omega)
          intro e member
          exact isDigit_of_mem (inside.subset member)
        have brace := shut (opensToken_of_suffix suffix digits) d next
        have member : d ∈ Nat.toDigits 10 k ++ ['\x7d'] := split ▸ by simp
        rw [brace] at member
        rcases List.mem_append.1 member with digit | last
        · cases isDigit_of_mem digit
        · cases List.mem_singleton.1 last

def TokenFree (n : Nat) (cs : List Char) : Prop :=
  ∀ k, 1 ≤ k → k ≤ n → ¬ (token k).toList <:+: cs

/-- The token of one of `n` groups that a text begins with, and what follows it. -/
def tokenAt? (n : Nat) (cs : List Char) : Option (Nat × List Char) :=
  (List.range' 1 n).findSome? fun k =>
    (Text.afterChars (token k).toList cs).map fun rest => (k, rest)

theorem of_tokenAt? {rest : List Char} (found : tokenAt? n cs = some (k, rest)) :
    1 ≤ k ∧ k ≤ n ∧ cs = (token k).toList ++ rest := by
  obtain ⟨i, member, hit⟩ := List.exists_of_findSome?_eq_some found
  obtain ⟨more, after, same⟩ := Option.map_eq_some_iff.1 hit
  cases same
  rw [List.mem_range'_1] at member
  exact ⟨member.1, by omega, Text.afterChars_eq_some_iff.1 after⟩

theorem not_prefix_of_tokenAt? (tokenless : tokenAt? n cs = none) (positive : 1 ≤ k) (bounded : k ≤ n) :
    ¬ (token k).toList <+: cs := by
  rintro ⟨rest, rfl⟩
  have missed := List.findSome?_eq_none_iff.1 tokenless k (List.mem_range'_1.2 ⟨positive, by omega⟩)
  rw [Text.afterChars_eq_some_iff.2 rfl] at missed
  cases missed

/-- A template cut at its tokens: the text before each token, and the text behind the last one. -/
inductive Tokenized where
  | tail (cs : List Char)
  | piece (before : List Char) (k : Nat) (rest : Tokenized)
deriving DecidableEq, Repr

namespace Tokenized

def chars : Tokenized → List Char
  | tail cs => cs
  | piece before k rest => before ++ ((token k).toList ++ rest.chars)

def push (c : Char) : Tokenized → Tokenized
  | tail cs => tail (c :: cs)
  | piece before k rest => piece (c :: before) k rest

/-- Cut a text at the tokens of `n` groups. Each step takes at least one character. -/
def cutFrom (n : Nat) : Nat → List Char → Tokenized
  | 0, cs => tail cs
  | _ + 1, [] => tail []
  | fuel + 1, c :: cs =>
    match tokenAt? n (c :: cs) with
    | some (k, rest) => piece [] k (cutFrom n fuel rest)
    | none => (cutFrom n fuel cs).push c

def ofTemplate (n : Nat) (template : String) : Tokenized :=
  cutFrom n template.toList.length template.toList

/-- Whether all tokens of `n` groups have been found, and no others. -/
def IsCut (n : Nat) : Tokenized → Prop
  | tail cs => TokenFree n cs
  | piece before k rest => TokenFree n before ∧ (1 ≤ k ∧ k ≤ n) ∧ rest.IsCut n

theorem chars_push (c : Char) (t : Tokenized) : (t.push c).chars = c :: t.chars := by
  cases t <;> rfl

theorem chars_cutFrom (n fuel : Nat) (cs : List Char) : (cutFrom n fuel cs).chars = cs := by
  induction fuel generalizing cs with
  | zero => rfl
  | succ fuel ih =>
    cases cs with
    | nil => rfl
    | cons c cs =>
      rw [cutFrom]
      split
      next found =>
        rw [chars, List.nil_append, ih]
        exact (of_tokenAt? found).2.2.symm
      next => rw [chars_push, ih]

theorem isCut_push {c : Char} {t : Tokenized} (cut : t.IsCut n)
    (tokenless : ∀ k, 1 ≤ k → k ≤ n → ¬ (token k).toList <+: c :: t.chars) : (t.push c).IsCut n := by
  have grown : ∀ cs : List Char, TokenFree n cs → cs <+: t.chars → TokenFree n (c :: cs) := by
    intro cs free within k positive bounded inside
    rcases List.infix_cons_iff.1 inside with first | later
    · exact tokenless k positive bounded (first.trans (List.cons_prefix_cons.2 ⟨rfl, within⟩))
    · exact free k positive bounded later
  cases t with
  | tail cs => exact grown cs cut (List.prefix_refl cs)
  | piece before k rest => exact ⟨grown before cut.1 (List.prefix_append _ _), cut.2⟩

theorem isCut_cutFrom {fuel : Nat} (enough : cs.length ≤ fuel) : (cutFrom n fuel cs).IsCut n := by
  have empty : TokenFree n [] := by
    intro k _ _ inside
    exact token_ne_nil k (List.infix_nil.1 inside)
  induction fuel generalizing cs with
  | zero =>
    obtain rfl := List.length_eq_zero_iff.1 (Nat.le_zero.1 enough)
    exact empty
  | succ fuel ih =>
    cases cs with
    | nil => exact empty
    | cons c cs =>
      rw [List.length_cons] at enough
      rw [cutFrom]
      split
      next k rest found =>
        obtain ⟨positive, bounded, split⟩ := of_tokenAt? found
        have lengths := congrArg List.length split
        have taken := List.length_pos_iff.2 (token_ne_nil k)
        rw [List.length_cons, List.length_append] at lengths
        exact ⟨empty, ⟨positive, bounded⟩, ih (by omega)⟩
      next none =>
        apply isCut_push (ih (by omega))
        intro k positive bounded
        rw [chars_cutFrom]
        exact not_prefix_of_tokenAt? none positive bounded

theorem chars_ofTemplate (n : Nat) (template : String) :
    (ofTemplate n template).chars = template.toList := chars_cutFrom n _ _

theorem isCut_ofTemplate (n : Nat) (template : String) : (ofTemplate n template).IsCut n :=
  isCut_cutFrom (Nat.le_refl _)

end Tokenized

end Assemblage

end Transclusion
