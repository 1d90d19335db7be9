import Mathlib.Data.Option.Basic
import Transclusion.Pattern.Reader

/-!
# The numbers of groups

Groups are numbered by their opening parentheses, and the numbers begin at 1. The whole match keeps
the number 0 to itself, whatever groups stand in repetitions, alternatives or each other.

## Main results

`numbered_read?`: in an expression that has been read no group has the number 0.
-/

namespace Transclusion.Pattern

/-- Whether groups are numbered from 1 on, since 0 is the number of the whole match. -/
def Expr.Numbered : Expr → Prop
  | empty | oneOf _ | anchor _ => True
  | capture index body => 0 < index ∧ body.Numbered
  | times _ _ _ body => body.Numbered
  | seq first second | alt first second => first.Numbered ∧ second.Numbered

namespace Expr

theorem numbered_seqAll {es : List Expr} (numbered : ∀ e ∈ es, e.Numbered) :
    (seqAll es).Numbered := by
  induction es using seqAll.induct with
  | case1 => exact True.intro
  | case2 e => exact numbered e (List.mem_singleton_self e)
  | case3 e es _ ih =>
    rw [List.forall_mem_cons] at numbered
    rw [seqAll]
    · exact ⟨numbered.1, ih numbered.2⟩
    · assumption

theorem numbered_altAll {es : List Expr} (numbered : ∀ e ∈ es, e.Numbered) :
    (altAll es).Numbered := by
  induction es using altAll.induct with
  | case1 => exact True.intro
  | case2 e => exact numbered e (List.mem_singleton_self e)
  | case3 e es _ ih =>
    rw [List.forall_mem_cons] at numbered
    rw [altAll]
    · exact ⟨numbered.1, ih numbered.2⟩
    · assumption

end Expr

namespace Reader

theorem numbered_oneOf? {flags : Flags} {s : CharSet} {e : Expr} (read : oneOf? flags s = some e) :
    e.Numbered := by
  unfold oneOf? at read
  split at read <;> cases read
  exact True.intro

theorem numbered_escapeExpr {flags : Flags} {escape : Escape} {e : Expr}
    (read : escapeExpr flags escape = some e) : e.Numbered := by
  unfold escapeExpr at read
  split at read
  · cases read
    exact True.intro
  · split at read <;> cases read
    exact True.intro
  · exact numbered_oneOf? read
  · cases read
    exact True.intro

theorem numbered_dot {flags : Flags} {e : Expr} (read : dot flags = some e) : e.Numbered := by
  unfold dot at read
  repeat' split at read
  all_goals cases read
  all_goals exact True.intro

variable {flags : Flags} {groups : Groups} {branches : List Nested} {items : List Piece}

/-- Whether the groups among the items of an alternative are numbered from 1 on. -/
def ItemsNumbered (items : List Piece) : Prop :=
  ∀ item ∈ items, ∀ e ∈ item.expr, e.Numbered

def BranchesNumbered (branches : List Nested) : Prop :=
  ∀ branch ∈ branches, branch.expr.Numbered

theorem ItemsNumbered.concat (numbered : ItemsNumbered items) : (concat items).expr.Numbered := by
  apply Expr.numbered_seqAll
  intro e member
  obtain ⟨item, member, here⟩ := List.mem_filterMap.1 member
  exact numbered item (List.mem_reverse.1 member) e here

theorem ItemsNumbered.cons (numbered : ItemsNumbered items) {e : Expr} (here : e.Numbered)
    (height : Nat) : ItemsNumbered (⟨some e, height⟩ :: items) := by
  refine List.forall_mem_cons.2 ⟨?_, numbered⟩
  rintro _ ⟨⟩
  exact here

theorem ItemsNumbered.directive (numbered : ItemsNumbered items) :
    ItemsNumbered (⟨none, 0⟩ :: items) := by
  refine List.forall_mem_cons.2 ⟨?_, numbered⟩
  rintro _ ⟨⟩

theorem ItemsNumbered.repeatLast (numbered : ItemsNumbered items) {least : Nat} {most : Option Nat}
    {lazy : Bool} {repeated : List Piece}
    (read : repeatLast flags least most lazy items = some repeated) : ItemsNumbered repeated := by
  unfold Reader.repeatLast at read
  split at read
  · rename_i e height items
    cases read
    obtain ⟨last, others⟩ := List.forall_mem_cons.1 numbered
    exact ItemsNumbered.cons others (e := .times _ _ _ e) (last e rfl) _
  · cases read

theorem BranchesNumbered.cons (branched : BranchesNumbered branches)
    (numbered : ItemsNumbered items) : BranchesNumbered (concat items :: branches) :=
  List.forall_mem_cons.2 ⟨numbered.concat, branched⟩

theorem BranchesNumbered.alternatives (branched : BranchesNumbered branches) :
    (alternatives branches).expr.Numbered := by
  apply Expr.numbered_altAll
  intro e member
  obtain ⟨branch, among, rfl⟩ := List.mem_map.1 member
  exact branched branch (List.mem_reverse.1 among)

theorem numbered_body (fuel : Nat) : ∀ (flags : Flags) (groups : Groups) (branches : List Nested)
    (items : List Piece) (cs : List Char), BranchesNumbered branches → ItemsNumbered items →
    ∀ made, body fuel flags groups branches items cs = some made → made.1.expr.Numbered := by
  induction fuel with
  | zero => nofun
  | succ fuel ih =>
    intro flags groups branches items cs branched numbered made read
    have add {groups : Groups} {e : Expr} {height : Nat} {rest : List Char} (here : e.Numbered)
        (read : body fuel flags groups branches (⟨some e, height⟩ :: items) rest = some made) :
        made.1.expr.Numbered := ih _ _ _ _ _ branched (numbered.cons here height) made read
    have again {groups : Groups} {least : Nat} {most : Option Nat} {lazy : Bool} {rest : List Char}
        (read : (do body fuel flags groups branches (← repeatLast flags least most lazy items) rest)
          = some made) : made.1.expr.Numbered := by
      obtain ⟨repeated, repeats, read⟩ := Option.bind_eq_some_iff.1 read
      exact ih _ _ _ _ _ branched (numbered.repeatLast repeats) made read
    have group {flags : Flags} {groups : Groups} {cs : List Char}
        {made : Nested × Groups × List Char}
        (read : body fuel flags groups [] [] cs = some made) : made.1.expr.Numbered :=
      ih _ _ _ _ _ (List.forall_mem_nil _) (List.forall_mem_nil _) made read
    rw [body] at read
    split at read
    · cases read
      exact (branched.cons numbered).alternatives
    · cases read
      exact (branched.cons numbered).alternatives
    · exact ih _ _ _ _ _ (branched.cons numbered) (List.forall_mem_nil _) made read
    · -- Flags for what follows, a group without a number, or one with the next number.
      obtain ⟨⟨start, rest⟩, _, read⟩ := Option.bind_eq_some_iff.1 read
      dsimp only at read
      split at read
      · exact ih _ _ _ _ _ branched numbered.directive made read
      · obtain ⟨⟨e, groups, rest⟩, inner, read⟩ := Option.bind_eq_some_iff.1 read
        dsimp only at read
        split at read
        · exact add (group inner) read
        · cases read
      · obtain ⟨_, _, read⟩ := Option.bind_eq_some_iff.1 read
        obtain ⟨⟨e, groups, rest⟩, inner, read⟩ := Option.bind_eq_some_iff.1 read
        dsimp only at read
        split at read
        · exact add (e := .capture _ _) ⟨Nat.succ_pos _, group inner⟩ read
        · cases read
    · exact again read
    · exact again read
    · exact again read
    · obtain ⟨⟨least, most, rest⟩, _, read⟩ := Option.bind_eq_some_iff.1 read
      exact again read
    · obtain ⟨⟨s, rest⟩, _, read⟩ := Option.bind_eq_some_iff.1 read
      obtain ⟨e, here, read⟩ := Option.bind_eq_some_iff.1 read
      exact add (numbered_oneOf? here) read
    · obtain ⟨⟨s, rest⟩, _, read⟩ := Option.bind_eq_some_iff.1 read
      obtain ⟨e, here, read⟩ := Option.bind_eq_some_iff.1 read
      exact add (numbered_escapeExpr here) read
    · obtain ⟨e, here, read⟩ := Option.bind_eq_some_iff.1 read
      exact add (numbered_dot here) read
    · exact add (e := .anchor _) trivial read
    · exact add (e := .anchor _) trivial read
    · exact add (e := .oneOf _) trivial read

end Reader

theorem Expr.numbered_read? {text : String} {e : Expr} {groups : Groups}
    (read : Expr.read? text = some (e, groups)) : e.Numbered := by
  unfold Expr.read? at read
  split at read
  · rename_i made groups body
    split at read
    · cases read
      exact Reader.numbered_body _ _ _ _ _ _ (List.forall_mem_nil _) (List.forall_mem_nil _) _ body
    · cases read
  · cases read

end Transclusion.Pattern
