import Transclusion.Pattern.Template
import Transclusion.Proofs.Text.Pieces

/-!
# Reading templates

A template is read from the left, and a reference takes all that it can: a name goes on as long as
it can, and a dollar sign at the end of a text may begin a reference with what follows. So what a
text stands for in a template depends on the text behind it, unless it is closed. A text in which
each dollar sign is written twice is closed and stands for the text itself.

## Main results

`expand_append`: a closed text is read apart from what follows it.
`expand_doubled`: a text with doubled dollar signs gives the text.
-/

namespace Transclusion

namespace Template

variable {cs rest name : List Char} {c : Char}

theorem length_of_reference? (found : reference? cs = some (name, rest)) :
    rest.length ≤ cs.length := by
  unfold reference? at found
  split at found
  next cs =>
    obtain ⟨-, rfl⟩ := Text.eq_of_cutChars found
    simp only [List.length_cons, List.length_append]
    omega
  next =>
    split at found
    · cases found
    · cases found
      exact (List.dropWhile_sublist inName).length_le

theorem partsFrom_text (plain : c ≠ '$') (fuel : Nat) (cs : List Char) :
    partsFrom (fuel + 1) (c :: cs) = .text c :: partsFrom fuel cs :=
  partsFrom.eq_5 fuel c cs plain

theorem partsFrom_single (single : cs.head? ≠ some '$') (fuel : Nat) :
    partsFrom (fuel + 1) ('$' :: cs) = match reference? cs with
      | some (name, rest) => .group name :: partsFrom fuel rest
      | none => .text '$' :: partsFrom fuel cs := by
  apply partsFrom.eq_4
  rintro rest rfl
  exact single rfl

theorem partsFrom_eq {n m : Nat} (enough : cs.length ≤ n) (enough' : cs.length ≤ m) :
    partsFrom n cs = partsFrom m cs := by
  -- Every step takes a character, so there is fuel for all of them.
  induction n generalizing m cs with
  | zero =>
    obtain rfl := List.length_eq_zero_iff.1 (Nat.le_zero.1 enough)
    cases m <;> rfl
  | succ n ih =>
    cases cs with
    | nil => cases m <;> rfl
    | cons c cs =>
      cases m with
      | zero => cases enough'
      | succ m =>
        rw [List.length_cons] at enough enough'
        have shorter : ∀ rest : List Char, rest.length ≤ cs.length →
            partsFrom n rest = partsFrom m rest := by
          intro rest le
          apply ih <;> omega
        by_cases plain : c = '$'
        · subst plain
          by_cases double : cs.head? = some '$'
          · obtain ⟨rest, rfl⟩ := List.head?_eq_some_iff.1 double
            exact congrArg _ (shorter rest (Nat.le_succ _))
          · rw [partsFrom_single double, partsFrom_single double]
            cases found : reference? cs with
            | none => exact congrArg _ (shorter cs (Nat.le_refl _))
            | some parts => exact congrArg _ (shorter parts.2 (length_of_reference? found))
        · rw [partsFrom_text plain, partsFrom_text plain, shorter cs (Nat.le_refl _)]

/-- The parts of a template that is given by its characters. -/
def read (cs : List Char) : List TemplatePart := partsFrom cs.length cs

theorem parts_eq_read (template : String) : parts template = read template.toList := rfl

theorem read_text (plain : c ≠ '$') (cs : List Char) : read (c :: cs) = .text c :: read cs :=
  partsFrom_text plain _ cs

theorem read_dollar (cs : List Char) : read ('$' :: '$' :: cs) = .text '$' :: read cs :=
  congrArg _ (partsFrom_eq (Nat.le_succ _) (Nat.le_refl _))

theorem read_reference (single : cs.head? ≠ some '$') (found : reference? cs = some (name, rest)) :
    read ('$' :: cs) = .group name :: read rest := by
  rw [read, List.length_cons, partsFrom_single single, found]
  exact congrArg _ (partsFrom_eq (length_of_reference? found) (Nat.le_refl _))

theorem read_lone (single : cs.head? ≠ some '$') (alone : reference? cs = none) :
    read ('$' :: cs) = .text '$' :: read cs := by
  rw [read, List.length_cons, partsFrom_single single, alone]
  rfl

/-- The texts whose last reference cannot go on, and whose last dollar sign begins no other one. -/
inductive Closed : List Char → Prop where
  | nil : Closed []
  | text {c : Char} {cs : List Char} (plain : c ≠ '$') (closed : Closed cs) : Closed (c :: cs)
  | dollar {cs : List Char} (closed : Closed cs) : Closed ('$' :: '$' :: cs)
  | braced {name cs : List Char} (free : '\x7d' ∉ name) (closed : Closed cs) :
      Closed ('$' :: '\x7b' :: (name ++ '\x7d' :: cs))
  | named {name cs : List Char} {c : Char} (nonempty : name ≠ [])
      (named : ∀ d ∈ name, inName d = true) (ended : inName c = false) (closed : Closed (c :: cs)) :
      Closed ('$' :: (name ++ c :: cs))
  | lone {c : Char} {cs : List Char} (dollar : c ≠ '$') (brace : c ≠ '\x7b')
      (ended : inName c = false) (closed : Closed (c :: cs)) : Closed ('$' :: c :: cs)

theorem reference?_braced (free : '\x7d' ∉ name) (cs : List Char) :
    reference? ('\x7b' :: (name ++ '\x7d' :: cs)) = some (name, cs) :=
  Text.cutChars_append free cs

theorem reference?_named (nonempty : name ≠ []) (named : ∀ d ∈ name, inName d = true)
    (ended : inName c = false) (cs : List Char) :
    reference? (name ++ c :: cs) = some (name, c :: cs) := by
  have taken : (name ++ c :: cs).takeWhile inName = name := by
    rw [List.takeWhile_append_of_pos named, List.takeWhile_cons_of_neg (by simp [ended]),
      List.append_nil]
  have left : (name ++ c :: cs).dropWhile inName = c :: cs := by
    rw [List.dropWhile_append_of_pos named, List.dropWhile_cons_of_neg (by simp [ended])]
  cases name with
  | nil => exact absurd rfl nonempty
  | cons d name =>
    have first := named d List.mem_cons_self
    unfold reference?
    split
    next braced =>
      -- A brace is no part of a name.
      cases braced
      cases first
    next => rw [if_neg (by rw [taken]; exact nonempty), taken, left]

theorem reference?_lone (brace : c ≠ '\x7b') (ended : inName c = false) (cs : List Char) :
    reference? (c :: cs) = none := by
  unfold reference?
  split
  next braced =>
    cases braced
    exact absurd rfl brace
  next => rw [if_pos (List.takeWhile_cons_of_neg (by simp [ended]))]

theorem read_append (closed : Closed cs) (rest : List Char) :
    read (cs ++ rest) = read cs ++ read rest := by
  -- Each case reads one part, which is the same one with more text behind it.
  induction closed with
  | nil => rfl
  | text plain closed ih => rw [List.cons_append, read_text plain, read_text plain, ih]; rfl
  | dollar closed ih =>
    rw [List.cons_append, List.cons_append, read_dollar, read_dollar, ih]
    rfl
  | @braced name cs free closed ih =>
    have apart : '$' :: '\x7b' :: (name ++ '\x7d' :: cs) ++ rest =
        '$' :: '\x7b' :: (name ++ '\x7d' :: (cs ++ rest)) := by simp
    rw [apart, read_reference (by simp) (reference?_braced free _),
      read_reference (by simp) (reference?_braced free _), ih]
    rfl
  | @named name cs c nonempty named ended closed ih =>
    have apart : '$' :: (name ++ c :: cs) ++ rest = '$' :: (name ++ c :: (cs ++ rest)) := by simp
    have single : ∀ more : List Char, (name ++ c :: more).head? ≠ some '$' := by
      intro more first
      cases name with
      | nil => exact nonempty rfl
      | cons d name =>
        -- Nor is a dollar sign.
        cases first
        cases named '$' List.mem_cons_self
    rw [apart, read_reference (single _) (reference?_named nonempty named ended _),
      read_reference (single _) (reference?_named nonempty named ended _), ← List.cons_append, ih]
    rfl
  | @lone c cs dollar brace ended closed ih =>
    have single : ∀ more : List Char, (c :: more).head? ≠ some '$' := by
      intro more first
      exact dollar (Option.some.inj first)
    rw [List.cons_append, List.cons_append, read_lone (single _) (reference?_lone brace ended _),
      read_lone (single _) (reference?_lone brace ended _), ← List.cons_append, ih]
    rfl

/-- A text with every dollar sign written twice. -/
def doubled (cs : List Char) : List Char :=
  cs.flatMap fun c => if c = '$' then ['$', '$'] else [c]

@[simp] theorem doubled_append (xs ys : List Char) : doubled (xs ++ ys) = doubled xs ++ doubled ys :=
  List.flatMap_append

@[simp] theorem doubled_nil : doubled [] = [] := rfl

@[simp] theorem doubled_dollar (cs : List Char) :
    doubled ('$' :: cs) = '$' :: '$' :: doubled cs := rfl

@[simp] theorem doubled_plain (plain : c ≠ '$') (cs : List Char) :
    doubled (c :: cs) = c :: doubled cs := by
  simp [doubled, plain]

theorem closed_doubled (cs : List Char) : Closed (doubled cs) := by
  induction cs with
  | nil => exact .nil
  | cons c cs ih =>
    by_cases dollar : c = '$'
    · simpa [dollar] using ih.dollar
    · simpa [dollar] using ih.text dollar

theorem read_doubled (cs : List Char) : read (doubled cs) = cs.map .text := by
  induction cs with
  | nil => rfl
  | cons c cs ih =>
    by_cases dollar : c = '$'
    · simp [dollar, read_dollar, ih]
    · simp [dollar, read_text, ih]

variable (p : Pattern) (m : Match)

theorem expand_append (closed : Closed cs) (rest : List Char) :
    expand p (String.ofList (cs ++ rest)) m =
      expand p (String.ofList cs) m ++ expand p (String.ofList rest) m := by
  simp only [expand, parts_eq_read, String.toList_ofList, read_append closed, List.flatMap_append]

theorem expand_doubled (cs : List Char) : expand p (String.ofList (doubled cs)) m = cs := by
  simp only [expand, parts_eq_read, String.toList_ofList, read_doubled, List.flatMap_map,
    List.flatMap_singleton']

end Template

end Transclusion
