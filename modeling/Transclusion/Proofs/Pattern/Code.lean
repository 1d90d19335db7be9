import Transclusion.Pattern.Basic
import Transclusion.Proofs.Pattern.Numbering

/-!
# Compiled code

What a search relies on in the code of a pattern. Compilation appends code whose jumps stay inside
it or leave to where matching goes on. So the code has one way in, which remembers where the match
begins, and one way out, which remembers where it ends and accepts.

## Main results

`framed_of_compile?`: the code of a pattern begins and ends a match in these ways only.
-/

namespace Transclusion.Pattern

namespace Instr

/-- The addresses that may follow. -/
def targets : Instr → List Nat
  | take _ next | check _ next | save _ next => [next]
  | fork first second => [first, second]
  | accept => []

/-- Whether an instruction stands inside a match: it neither begins nor ends one. -/
def Inner (instr : Instr) : Prop :=
  instr ≠ accept ∧ ∀ slot next, instr = save slot next → 2 ≤ slot

end Instr

namespace Program

/-- Whether an address is an exit of some code or lies in it. -/
def Lands (exits : Nat → Prop) (low high address : Nat) : Prop :=
  exits address ∨ low ≤ address ∧ address < high

/-- Whether instructions have been appended to code that stand inside a match and lead to each other
or to exits. -/
structure Grown (exits : Nat → Prop) (code grown : Array Instr) : Prop where
  size_le : code.size ≤ grown.size
  kept : ∀ i < code.size, grown[i]? = code[i]?
  inner : ∀ i instr, code.size ≤ i → grown[i]? = some instr → instr.Inner
  lands : ∀ i instr, code.size ≤ i → grown[i]? = some instr →
    ∀ target ∈ instr.targets, Lands exits code.size grown.size target

/-- Whether code has been appended in this way, together with the address where it is entered. -/
def Emitted (exits : Nat → Prop) (code : Array Instr) (made : Array Instr × Nat) : Prop :=
  Grown exits code made.1 ∧ Lands exits code.size made.1.size made.2

/-- Whether a step of compilation appends code, given where matching goes on. -/
def Emits (body : Array Instr → Nat → Array Instr × Nat) : Prop :=
  ∀ code next, Emitted (· = next) code (body code next)

variable {exits : Nat → Prop} {code grown : Array Instr}

theorem Lands.mono {low high low' high' address : Nat} (lands : Lands exits low high address)
    (below : low' ≤ low) (above : high ≤ high') : Lands exits low' high' address :=
  lands.imp_right fun inside => ⟨Nat.le_trans below inside.1, Nat.lt_of_lt_of_le inside.2 above⟩

theorem Grown.refl (exits : Nat → Prop) (code : Array Instr) : Grown exits code code := by
  have absent (i : Nat) (instr : Instr) (beyond : code.size ≤ i) : code[i]? ≠ some instr := by
    rw [Array.getElem?_eq_none beyond]
    nofun
  exact ⟨Nat.le_refl _, fun _ _ => rfl,
    fun i instr beyond here => absurd here (absent i instr beyond),
    fun i instr beyond here => absurd here (absent i instr beyond)⟩

theorem Grown.trans {more : Nat → Prop} {longer : Array Instr} (first : Grown exits code grown)
    (second : Grown more grown longer)
    (into : ∀ t, more t → Lands exits code.size grown.size t) : Grown exits code longer := by
  have widen {t : Nat} (lands : Lands exits code.size grown.size t) :
      Lands exits code.size longer.size t := lands.mono (Nat.le_refl _) second.size_le
  constructor
  · exact Nat.le_trans first.size_le second.size_le
  · intro i before
    rw [second.kept i (Nat.lt_of_lt_of_le before first.size_le), first.kept i before]
  · intro i instr beyond here
    by_cases inside : i < grown.size
    · rw [second.kept i inside] at here
      exact first.inner i instr beyond here
    · exact second.inner i instr (Nat.le_of_not_lt inside) here
  · intro i instr beyond here target member
    by_cases inside : i < grown.size
    · rw [second.kept i inside] at here
      exact widen (first.lands i instr beyond here target member)
    · rcases second.lands i instr (Nat.le_of_not_lt inside) here target member with
        out | ⟨low, high⟩
      · exact widen (into target out)
      · exact .inr ⟨Nat.le_trans first.size_le low, high⟩

theorem Grown.push {instr : Instr} (inner : instr.Inner)
    (lands : ∀ target ∈ instr.targets, exits target) : Grown exits code (code.push instr) := by
  have last {i : Nat} {other : Instr} (beyond : code.size ≤ i)
      (here : (code.push instr)[i]? = some other) : other = instr := by
    rw [Array.getElem?_push] at here
    split at here
    · exact (Option.some.inj here).symm
    · rw [Array.getElem?_eq_none beyond] at here
      cases here
  constructor
  · simp
  · intro i before
    rw [Array.getElem?_push, if_neg (Nat.ne_of_lt before)]
  · intro i other beyond here
    rwa [last beyond here]
  · intro i other beyond here target member
    rw [last beyond here] at member
    exact .inl (lands target member)

theorem inner_choice (greedy : Bool) (body exit : Nat) : (choice greedy body exit).Inner := by
  cases greedy <;> exact ⟨Instr.noConfusion, nofun⟩

theorem mem_targets_choice {greedy : Bool} {body exit target : Nat} :
    target ∈ (choice greedy body exit).targets ↔ target = body ∨ target = exit := by
  cases greedy <;> simp [choice, Instr.targets, or_comm]

/-- What has been emitted after other code belongs to it, if its exits do. -/
theorem Grown.emitted {more : Nat → Prop} {made : Array Instr × Nat}
    (first : Grown exits code grown) (second : Emitted more grown made)
    (into : ∀ t, more t → Lands exits code.size grown.size t) : Emitted exits code made := by
  refine ⟨first.trans second.1 into, ?_⟩
  rcases second.2 with out | inside
  · exact (into _ out).mono (Nat.le_refl _) second.1.size_le
  · exact .inr ⟨Nat.le_trans first.size_le inside.1, inside.2⟩

theorem emitted_here (next : Nat) (code : Array Instr) : Emitted (· = next) code (code, next) :=
  ⟨.refl _ code, .inl rfl⟩

/-- Code that goes on at code emitted before. -/
theorem Emitted.andThen {made longer : Array Instr × Nat} (first : Emitted exits code made)
    (second : Emitted (· = made.2) made.1 longer) : Emitted exits code longer := by
  apply first.1.emitted second
  rintro t rfl
  exact first.2

theorem Emitted.mono {more : Nat → Prop} {made : Array Instr × Nat}
    (emitted : Emitted exits code made) (into : ∀ t, exits t → more t) : Emitted more code made :=
  (Grown.refl more code).emitted emitted fun t out => .inl (into t out)

/-- An instruction that goes on in the code emitted before, or at an exit. -/
theorem Grown.emitted_push (first : Grown exits code grown) {instr : Instr} (inner : instr.Inner)
    (lands : ∀ target ∈ instr.targets, Lands exits code.size grown.size target) :
    Emitted exits code (grown.push instr, grown.size) := by
  have last : Emitted (· ∈ instr.targets) grown (grown.push instr, grown.size) :=
    ⟨.push inner fun _ member => member, .inr ⟨Nat.le_refl _, by simp⟩⟩
  exact first.emitted last lands

/-- A loop whose place has been kept free while its body was compiled. -/
theorem emitted_loop {made : Array Instr × Nat}
    (body : Emitted (· = code.size) (code.push .accept) made) (greedy : Bool) (next : Nat) :
    Emitted (· = next) code
      (made.1.setIfInBounds code.size (choice greedy made.2 next), made.2) := by
  obtain ⟨grown, entry⟩ := made
  obtain ⟨body, entered⟩ := body
  dsimp only at body entered ⊢
  have larger : code.size < grown.size := by
    have le := body.size_le
    rwa [Array.size_push] at le
  have inside {t : Nat} (lands : Lands (· = code.size) (code.push .accept).size grown.size t) :
      Lands (· = next) code.size grown.size t := by
    rw [Array.size_push] at lands
    rcases lands with rfl | ⟨low, high⟩
    · exact .inr ⟨Nat.le_refl _, larger⟩
    · exact .inr ⟨Nat.le_of_succ_le low, high⟩
  have later {i : Nat} (beyond : code.size ≤ i) (other : code.size ≠ i) :
      (code.push .accept).size ≤ i := by
    rw [Array.size_push]
    omega
  refine ⟨⟨?_, ?_, ?_, ?_⟩, by simpa using inside entered⟩
  · simpa using Nat.le_of_lt larger
  · intro i before
    rw [Array.getElem?_setIfInBounds_ne (Nat.ne_of_gt before), body.kept i (by simp; omega),
      Array.getElem?_push, if_neg (Nat.ne_of_lt before)]
  · -- The instruction that kept the place is not inner, but the fork that takes the place is.
    intro i instr beyond here
    by_cases loop : code.size = i
    · subst loop
      rw [Array.getElem?_setIfInBounds_self_of_lt larger] at here
      cases here
      exact inner_choice greedy entry next
    · rw [Array.getElem?_setIfInBounds_ne loop] at here
      exact body.inner i instr (later beyond loop) here
  · intro i instr beyond here target member
    rw [Array.size_setIfInBounds]
    by_cases loop : code.size = i
    · subst loop
      rw [Array.getElem?_setIfInBounds_self_of_lt larger] at here
      cases here
      rcases mem_targets_choice.1 member with rfl | rfl
      · exact inside entered
      · exact .inl rfl
    · rw [Array.getElem?_setIfInBounds_ne loop] at here
      exact inside (body.lands i instr (later beyond loop) here target member)

variable {body : Array Instr → Nat → Array Instr × Nat}

theorem emits_copies (emits : Emits body) (count : Nat) : Emits (copies body count) := by
  induction count with
  | zero => exact fun code next => emitted_here next code
  | succ count ih =>
    intro code next
    exact (emits code next).andThen (ih _ _)

/-- Copies that may each be left out lead on to where matching goes on, or straight to the exit. -/
theorem emitted_optionalCopies (emits : Emits body) (greedy : Bool) (exit count : Nat)
    (code : Array Instr) (next : Nat) :
    Emitted (fun t => t = next ∨ t = exit) code
      (optionalCopies greedy body exit count code next) := by
  induction count generalizing code next with
  | zero => exact (emitted_here next code).mono fun _ => .inl
  | succ count ih =>
    obtain ⟨first, reached⟩ := (emits code next).mono fun t (here : t = next) =>
      Or.inl (b := t = exit) here
    have inner := inner_choice greedy (body code next).2 exit
    have forked := first.emitted_push inner fun target member => by
      rcases mem_targets_choice.1 member with rfl | rfl
      · exact reached
      · exact .inl (.inr rfl)
    apply forked.1.emitted (ih _ _)
    rintro t (rfl | rfl)
    · exact forked.2
    · exact .inl (.inr rfl)

theorem emits_oneOrMore (emits : Emits body) (greedy : Bool) : Emits (oneOrMore greedy body) := by
  intro code next
  exact emitted_loop (emits (code.push .accept) code.size) greedy next

theorem emits_emit {e : Expr} (numbered : e.Numbered) : Emits (emit e) := by
  induction e with
  | empty => exact fun code next => emitted_here next code
  | oneOf set =>
    intro code next
    refine (Grown.refl _ code).emitted_push ⟨Instr.noConfusion, nofun⟩ fun target member => ?_
    exact .inl (List.mem_singleton.1 member)
  | anchor a =>
    intro code next
    refine (Grown.refl _ code).emitted_push ⟨Instr.noConfusion, nofun⟩ fun target member => ?_
    exact .inl (List.mem_singleton.1 member)
  | capture index body ih =>
    obtain ⟨positive, numbered⟩ := numbered
    intro code next
    have save (slot target : Nat) (other : 2 ≤ slot) : (Instr.save slot target).Inner := by
      refine ⟨Instr.noConfusion, ?_⟩
      rintro _ _ ⟨⟩
      exact other
    have closed : Emitted (· = next) code (code.push (.save (2 * index + 1) next), code.size) :=
      (Grown.refl _ code).emitted_push (save _ _ (by omega)) fun target member =>
        .inl (List.mem_singleton.1 member)
    obtain ⟨inside, entered⟩ := closed.andThen (ih numbered _ _)
    refine inside.emitted_push (save _ _ (by omega)) fun target member => ?_
    rw [List.mem_singleton.1 member]
    exact entered
  | seq first second ihFirst ihSecond =>
    intro code next
    exact (ihSecond numbered.2 code next).andThen (ihFirst numbered.1 _ _)
  | alt first second ihFirst ihSecond =>
    intro code next
    obtain ⟨one, enterOne⟩ := ihFirst numbered.1 code next
    have other := ihSecond numbered.2 (emit first code next).1 next
    obtain ⟨two, enterTwo⟩ := one.emitted other fun t here => .inl here
    refine two.emitted_push ⟨Instr.noConfusion, nofun⟩ fun target member => ?_
    simp only [Instr.targets, List.mem_cons, List.not_mem_nil, or_false] at member
    rcases member with rfl | rfl
    · exact enterOne.mono (Nat.le_refl _) other.1.size_le
    · exact enterTwo
  | times least most greedy body ih =>
    have emits := ih numbered
    intro code next
    cases most with
    | some most =>
      have optional := (emitted_optionalCopies emits greedy next (most - least) code next).mono
        fun t here => here.elim id id
      exact optional.andThen (emits_copies emits least _ _)
    | none =>
      cases least with
      | succ least =>
        exact (emits_oneOrMore emits greedy code next).andThen (emits_copies emits least _ _)
      | zero =>
        rw [emit]
        split
        -- A body that may be empty has the way around it in front of the loop.
        · obtain ⟨loop, entered⟩ := emits_oneOrMore emits greedy code next
          refine loop.emitted_push (inner_choice greedy _ next) fun target member => ?_
          rcases mem_targets_choice.1 member with rfl | rfl
          · exact entered
          · exact .inl rfl
        · have inside := emits (code.push .accept) code.size
          have larger := inside.1.size_le
          rw [Array.size_push] at larger
          refine ⟨(emitted_loop inside greedy next).1, .inr ⟨Nat.le_refl _, ?_⟩⟩
          rw [Array.size_setIfInBounds]
          exact larger

/-- Whether code has one way in, by which alone the beginning of a match is remembered, and one way
out, by which alone its end is remembered just before it is accepted. -/
structure Framed (p : Program) : Prop where
  accepts : p.code[0]? = some .accept
  closes : p.code[1]? = some (.save 1 0)
  opens : ∃ entry, p.code[p.start]? = some (.save 0 entry)
  inner : ∀ i instr, p.code[i]? = some instr → i ≠ 0 → i ≠ 1 → i ≠ p.start → instr.Inner
  lands : ∀ i instr, p.code[i]? = some instr →
    ∀ target ∈ instr.targets, target ≠ p.start ∧ (target = 0 → i = 1)

theorem framed_ofExpr {e : Expr} (numbered : e.Numbered) : (ofExpr e).Framed := by
  -- Address 0 accepts, address 1 closes the match, the body follows, and the way in is the last.
  obtain ⟨body, entered⟩ := emits_emit numbered #[.accept, .save 1 0] 1
  have made : ofExpr e = ⟨(emit e #[.accept, .save 1 0] 1).1.push
      (.save 0 (emit e #[.accept, .save 1 0] 1).2), (emit e #[.accept, .save 1 0] 1).1.size⟩ := rfl
  rw [made]
  generalize emit e #[.accept, .save 1 0] 1 = compiled at body entered ⊢
  obtain ⟨code, entry⟩ := compiled
  dsimp only at body entered ⊢
  have two : 2 ≤ code.size := body.size_le
  have first : code[0]? = some .accept := body.kept 0 (by decide)
  have second : code[1]? = some (.save 1 0) := body.kept 1 (by decide)
  have below {i : Nat} (lt : i < code.size) : (code.push (.save 0 entry))[i]? = code[i]? := by
    rw [Array.getElem?_push, if_neg (Nat.ne_of_lt lt)]
  have last : (code.push (.save 0 entry))[code.size]? = some (.save 0 entry) :=
    Array.getElem?_push_size
  have upto {i : Nat} {instr : Instr} (here : (code.push (.save 0 entry))[i]? = some instr) :
      i ≤ code.size := by
    have lt := (Array.getElem?_eq_some_iff.1 here).1
    rw [Array.size_push] at lt
    exact Nat.le_of_lt_succ lt
  have inside {target : Nat} (lands : Lands (· = 1) 2 code.size target) :
      target ≠ code.size ∧ target ≠ 0 := by
    rcases lands with rfl | ⟨low, high⟩ <;> omega
  refine ⟨?_, ?_, ⟨entry, last⟩, ?_, ?_⟩
  · rw [below (by omega), first]
  · rw [below (by omega), second]
  · intro i instr here zero one start
    have lt := Nat.lt_of_le_of_ne (upto here) start
    rw [below lt] at here
    exact body.inner i instr (by simp; omega) here
  · intro i instr here target member
    rcases Nat.lt_or_eq_of_le (upto here) with lt | rfl
    · rw [below lt] at here
      obtain rfl | rfl | beyond : i = 0 ∨ i = 1 ∨ 2 ≤ i := by omega
      · rw [first] at here
        cases here
        cases member
      · rw [second] at here
        cases here
        rw [List.mem_singleton.1 member]
        exact ⟨Nat.ne_of_lt (Nat.lt_of_lt_of_le Nat.two_pos two), fun _ => rfl⟩
      · obtain ⟨start, zero⟩ := inside (body.lands i instr beyond here target member)
        exact ⟨start, fun eq => absurd eq zero⟩
    · rw [last] at here
      cases here
      obtain ⟨start, zero⟩ := inside entered
      rw [List.mem_singleton.1 member]
      exact ⟨start, fun eq => absurd eq zero⟩

/-- The slots counted so far, with those of one more instruction. -/
def countSlots (count : Nat) : Instr → Nat
  | .save slot _ => max count (slot + 1)
  | _ => count

theorem le_countSlots (count : Nat) (instr : Instr) : count ≤ countSlots count instr := by
  cases instr with
  | save slot next => exact Nat.le_max_left _ _
  | _ => exact Nat.le_refl _

/-- Every slot that is written to is there. -/
theorem lt_slots {p : Program} {i slot next : Nat} (here : p.code[i]? = some (.save slot next)) :
    slot < p.slots := by
  have counted (instrs : List Instr) : ∀ count : Nat,
      count ≤ instrs.foldl countSlots count ∧
        (.save slot next ∈ instrs → slot < instrs.foldl countSlots count) := by
    induction instrs with
    | nil => exact fun count => ⟨Nat.le_refl _, nofun⟩
    | cons instr instrs ih =>
      intro count
      obtain ⟨le, later⟩ := ih (countSlots count instr)
      refine ⟨Nat.le_trans (le_countSlots count instr) le, fun member => ?_⟩
      rcases List.mem_cons.1 member with rfl | member
      · exact Nat.lt_of_lt_of_le (Nat.le_max_right count (slot + 1)) le
      · exact later member
  have member : .save slot next ∈ p.code.toList := by
    rw [← Array.getElem?_toList] at here
    exact List.mem_of_getElem? here
  rw [slots, ← Array.foldl_toList]
  exact (counted p.code.toList 0).2 member

end Program

/-- The code of a pattern begins and ends a match in these ways only. -/
theorem framed_of_compile? {source : String} {p : Pattern}
    (compiled : Pattern.compile? source = some p) : p.program.Framed := by
  unfold Pattern.compile? at compiled
  split at compiled
  · cases compiled
  · rename_i e groups read
    split at compiled
    · cases compiled
    · cases compiled
      exact Program.framed_ofExpr (Expr.numbered_read? read)

end Transclusion.Pattern
