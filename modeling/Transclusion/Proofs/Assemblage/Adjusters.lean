import Transclusion.Proofs.Assemblage.Tokens

/-!
# Adjusters

The tokens in the template of an adjuster stand for the groups of a block, and the rest of it is
read as a template. The tokens are bound one after the other in the text of the template, which is
read only then. So a group whose text has a token of a later group in it, or makes one together with
what stands around it, is not written as it is; nor is a group behind a dollar sign or a name that
goes on. In all other cases the groups are written as they are, all at once.

## Main results

`adjust_eq_of_separate`: adjusters whose tokens stand apart write the groups as they are.
`adjust_rereads_groups`: a group in which the token of another one stands is not written as it is.
-/

namespace Transclusion.Assemblage

variable {k n : Nat} {groups : List String}

/-- The text of a group; groups are numbered from 1. -/
def groupText (groups : List String) (k : Nat) : List Char := (groups.getD (k - 1) "").toList

namespace Tokenized

/-- What a cut template gives for a match: the text of each group as it is, and what the text
between the tokens gives as a template. -/
def reading (p : Pattern) (groups : List String) (m : Match) : Tokenized → List Char
  | tail cs => Template.expand p (String.ofList cs) m
  | piece before k rest =>
    Template.expand p (String.ofList before) m ++ (groupText groups k ++ rest.reading p groups m)

/-- Whether the tokens can be bound one after the other. The text before a token must be closed as a
template. If there are later groups, neither the text before the token nor the group may begin a
token at its end, and the group may not hold a token of a later group. -/
def Separate (groups : List String) : Tokenized → Prop
  | tail _ => True
  | piece before k rest =>
    Template.Closed before ∧
      (k < groups.length → ¬ OpensToken before ∧ ¬ OpensToken (groupText groups k) ∧
        ∀ j, k < j → j ≤ groups.length → ¬ (token j).toList <:+: groupText groups k) ∧
      rest.Separate groups

/-- The template when the tokens below `k` have been bound. -/
def boundBelow (groups : List String) (k : Nat) : Tokenized → List Char
  | tail cs => cs
  | piece before j rest =>
    before ++ ((if j < k then Template.doubled (groupText groups j) else (token j).toList) ++
      rest.boundBelow groups k)

variable {t : Tokenized}

theorem boundBelow_one (cut : t.IsCut n) : t.boundBelow groups 1 = t.chars := by
  induction t with
  | tail cs => rfl
  | piece before j rest ih =>
    obtain ⟨-, ⟨positive, -⟩, later⟩ := cut
    rw [boundBelow, chars, ih later, if_neg (Nat.not_lt.2 positive)]

theorem replaced_boundBelow (cut : t.IsCut groups.length) (separate : t.Separate groups)
    (positive : 1 ≤ k) (bounded : k ≤ groups.length) :
    Text.replaced (token k).toList (Template.doubled (groupText groups k)) (t.boundBelow groups k) =
      t.boundBelow groups (k + 1) := by
  induction t with
  | tail cs =>
    have passed := @replaced_append_of_free k cs [] (Template.doubled (groupText groups k))
      (cut k positive bounded) (by simp)
    rw [List.append_nil] at passed
    rw [boundBelow, boundBelow, passed]
    exact List.append_nil cs
  | piece before j rest ih =>
    obtain ⟨free, ⟨_, _⟩, cutRest⟩ := cut
    obtain ⟨-, apart, separateRest⟩ := separate
    have later := ih cutRest separateRest
    have brace : ∀ i : Nat, ∀ more : List Char,
        ∀ c ∈ ((token i).toList ++ more).head?, c = '\x7b' := by
      intro i more c first
      rw [toList_token] at first
      exact (Option.some.inj first).symm
    rw [boundBelow, boundBelow]
    rcases Nat.lt_trichotomy j k with below | rfl | above
    · -- The group is in its place, and the search passes over it.
      obtain ⟨shut, shutGroup, clean⟩ := apart (by omega)
      have freeGroup : ¬ (token k).toList <:+: Template.doubled (groupText groups j) := by
        intro inside
        apply clean k below bounded
        exact Template.infix_of_infix_doubled (not_mem_token rfl (by decide) (by decide)) inside
      rw [if_pos below, if_pos (by omega), replaced_append_of_free (free k positive bounded),
        replaced_append_of_free freeGroup, later]
      · intro opens
        exact absurd (opensToken_doubled.1 opens) shutGroup
      · intro opens
        exact absurd opens shut
    · rw [if_neg (Nat.lt_irrefl j), if_pos (Nat.lt_succ_self j),
        replaced_append_of_free (free j positive bounded),
        Text.replaced_append_old (token_ne_nil j), later]
      intro _
      exact brace j _
    · have other : ¬ (token k).toList <:+: (token j).toList := by
        intro inside
        have same := token_infix_token inside
        omega
      rw [if_neg (by omega), if_neg (by omega), replaced_append_of_free (free k positive bounded),
        replaced_append_of_free other, later]
      · intro opens
        exact absurd opens (not_opensToken_token j)
      · intro _
        exact brace j _

theorem bindTokens_boundBelow (cut : t.IsCut groups.length) (separate : t.Separate groups)
    (before after : List String) (parts : groups = before ++ after) :
    bindTokens (String.ofList (t.boundBelow groups (before.length + 1))) (before.length + 1) after =
      String.ofList (t.boundBelow groups (groups.length + 1)) := by
  induction after generalizing before with
  | nil =>
    rw [List.append_nil] at parts
    rw [bindTokens, parts]
  | cons group after ih =>
    have text : groupText groups (before.length + 1) = group.toList := by
      simp [groupText, parts]
    have value : (literal group).toList =
        Template.doubled (groupText groups (before.length + 1)) := by
      rw [literal, Text.replaceChar, String.toList_ofList, text]
      rfl
    have bounded : before.length + 1 ≤ groups.length := by
      rw [parts, List.length_append, List.length_cons]
      omega
    have bound := ih (before ++ [group]) (by rw [parts, List.append_assoc]; rfl)
    rw [List.length_append, List.length_singleton] at bound
    rw [bindTokens, Text.replaceText_eq, String.toList_ofList, value,
      replaced_boundBelow cut separate (Nat.le_add_left 1 _) bounded]
    exact bound

theorem expand_boundBelow (p : Pattern) (m : Match) (cut : t.IsCut groups.length)
    (separate : t.Separate groups) :
    Template.expand p (String.ofList (t.boundBelow groups (groups.length + 1))) m =
      t.reading p groups m := by
  induction t with
  | tail cs => rfl
  | piece before k rest ih =>
    obtain ⟨-, ⟨-, bounded⟩, cutRest⟩ := cut
    obtain ⟨closed, -, separateRest⟩ := separate
    rw [boundBelow, reading, if_pos (Nat.lt_succ_of_le bounded), Template.expand_append p m closed,
      Template.expand_append p m (Template.closed_doubled _), Template.expand_doubled,
      ih cutRest separateRest]

end Tokenized

/-- Apply every adjuster in order, with the groups of the block written as they are. -/
def adjustVerbatim (a : Assemblage) (content : String) (groups : List String) : String :=
  a.adjusters.foldl (fun content r => r.pattern.replaceAll content
    ((Tokenized.ofTemplate groups.length r.template).reading r.pattern groups)) content

/-- If the tokens of all adjusters stand apart from what is around them, each adjuster replaces the
matches of its pattern by its template with the groups written as they are. -/
theorem adjust_eq_of_separate (a : Assemblage) (content : String) (groups : List String)
    (separate : ∀ r ∈ a.adjusters,
      (Tokenized.ofTemplate groups.length r.template).Separate groups) :
    a.adjust content groups = a.adjustVerbatim content groups := by
  unfold adjust adjustVerbatim
  apply List.foldl_ext
  intro content r member
  have apart := separate r member
  have cut := Tokenized.isCut_ofTemplate groups.length r.template
  have bound : bindTokens r.template 1 groups = String.ofList
      ((Tokenized.ofTemplate groups.length r.template).boundBelow groups (groups.length + 1)) := by
    have start := Tokenized.bindTokens_boundBelow cut apart [] groups rfl
    rwa [List.length_nil, Nat.zero_add, Tokenized.boundBelow_one cut, Tokenized.chars_ofTemplate,
      String.ofList_toList] at start
  have expanded : Template.expand r.pattern (bindTokens r.template 1 groups) =
      (Tokenized.ofTemplate groups.length r.template).reading r.pattern groups := by
    funext m
    rw [bound]
    exact Tokenized.expand_boundBelow r.pattern m cut apart
  rw [Pattern.replaceWith, expanded]

/-- An adjuster for tags, whose letter is a group. -/
def tagAdjuster (template : String) : Assemblage :=
  (make "page").withAdjuster ⟨(Pattern.compile? "<([a-z])>").getD default, template⟩

/-- Groups with a reference, with braces and with the token of an earlier group. -/
theorem adjust_eq_of_separate_signs :
    (Tokenized.ofTemplate 2 "\x7b1\x7d:$1 \x7b2\x7d$$").Separate ["\x7bx\x7d$1", "\x7b1\x7d"] ∧
    (tagAdjuster "\x7b1\x7d:$1 \x7b2\x7d$$").adjust "a<h>b" ["\x7bx\x7d$1", "\x7b1\x7d"] =
      "a\x7bx\x7d$1:h \x7b1\x7d$b" := by
  have cut : Tokenized.ofTemplate 2 "\x7b1\x7d:$1 \x7b2\x7d$$" =
      .piece [] 1 (.piece [':', '$', '1', ' '] 2 (.tail ['$', '$'])) := by
    decide +kernel
  have closed : Template.Closed [':', '$', '1', ' '] :=
    .text (by decide) (@Template.Closed.named ['1'] [] ' ' (by decide)
      (List.forall_mem_singleton.2 (by decide)) (by decide) (.text (by decide) .nil))
  have separate : (Tokenized.ofTemplate 2 "\x7b1\x7d:$1 \x7b2\x7d$$").Separate
      ["\x7bx\x7d$1", "\x7b1\x7d"] := by
    rw [cut]
    refine ⟨.nil, fun _ => ⟨by decide, by decide +kernel, ?_⟩, closed, ?_, trivial⟩
    · intro j above bounded
      obtain rfl : j = 2 := Nat.le_antisymm bounded above
      decide +kernel
    · intro below
      exact absurd below (by decide)
  refine ⟨separate, ?_⟩
  rw [adjust_eq_of_separate]
  · decide +kernel
  · intro r member
    obtain rfl := List.mem_singleton.1 member
    exact separate

/-- The text of the first group is a token of the second one, which takes its place. And a group
that begins with a digit makes the number of another group out of the number before its token. -/
theorem adjust_rereads_groups :
    ((tagAdjuster "\x7b1\x7d").adjust "<h>" ["\x7b2\x7d", "y"] = "y" ∧
      (tagAdjuster "\x7b1\x7d").adjustVerbatim "<h>" ["\x7b2\x7d", "y"] = "\x7b2\x7d") ∧
    (tagAdjuster "$1\x7b1\x7d").adjust "<h>" ["0"] = "" ∧
      (tagAdjuster "$1\x7b1\x7d").adjustVerbatim "<h>" ["0"] = "h0" := by
  refine ⟨⟨?_, ?_⟩, ?_, ?_⟩
  all_goals decide +kernel

end Transclusion.Assemblage
