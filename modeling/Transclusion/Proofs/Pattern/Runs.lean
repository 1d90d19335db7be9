import Transclusion.Proofs.Pattern.Code
import Transclusion.Proofs.Pattern.Threads

/-!
# Runs of a search

A search runs over a text with all its threads at once. `Accepts` says of one way through the code
what it reads and where it ends, whatever stands further off; each thread of a search is such a way
under way, from the place that its slots remember.

## Main results

`findIn_sound`: what is found is a match where it is found.
-/

namespace Transclusion.Pattern

namespace Program

/-- Whether code accepts once it has read a text between two neighbours. -/
inductive Accepts (p : Program) (after : Option Char) : Nat → Option Char → List Char → Prop where
  | accept {address : Nat} {before : Option Char} :
      p.code[address]? = some .accept → Accepts p after address before []
  | follow {address next : Nat} {before : Option Char} {mid : List Char} :
      next ∈ p.followers before (mid.head?.or after) address → Accepts p after next before mid →
      Accepts p after address before mid
  | take {address next : Nat} {set : CharSet} {before : Option Char} {c : Char} {mid : List Char} :
      p.code[address]? = some (.take set next) → set.contains c →
      Accepts p after next (some c) mid → Accepts p after address before (c :: mid)

variable {p : Program}

theorem exists_target {before after : Option Char} {address next : Nat}
    (member : next ∈ p.followers before after address) :
    ∃ instr, p.code[address]? = some instr ∧ next ∈ instr.targets := by
  unfold followers at member
  split at member
  · rename_i here
    exact ⟨_, here, member⟩
  · rename_i here
    split at member
    · exact ⟨_, here, member⟩
    · cases member
  · rename_i here
    exact ⟨_, here, member⟩
  · cases member

theorem size_saved (pos : Nat) (t : Thread) : (p.saved pos t).size = t.slots.size := by
  unfold saved
  split
  · exact Array.size_setIfInBounds
  · rfl

theorem saved_self {pos slot next : Nat} {t : Thread} (sized : t.slots.size = p.slots)
    (here : p.code[t.address]? = some (.save slot next)) :
    (p.saved pos t)[slot]? = some (some pos) := by
  have bound := lt_slots here
  rw [← sized] at bound
  unfold saved
  rw [here]
  exact Array.getElem?_setIfInBounds_self_of_lt bound

namespace Framed

variable (framed : p.Framed)

include framed

theorem follower {before after : Option Char} {address next : Nat}
    (member : next ∈ p.followers before after address) :
    next ≠ p.start ∧ (next = 0 → address = 1) := by
  obtain ⟨instr, here, target⟩ := exists_target member
  exact framed.lands address instr here next target

theorem eq_zero_of_accept {address : Nat} (accept : p.code[address]? = some .accept) :
    address = 0 := by
  have other {instr : Instr} {i : Nat} (here : p.code[i]? = some instr) (ne : instr ≠ .accept) :
      address ≠ i := by
    rintro rfl
    rw [here] at accept
    exact ne (Option.some.inj accept)
  obtain ⟨entry, opens⟩ := framed.opens
  apply Decidable.byContradiction
  intro nonzero
  have inner := framed.inner address _ accept nonzero (other framed.closes nofun)
    (other opens nofun)
  exact inner.1 rfl

/-- Only the way in changes where a match is remembered to begin. -/
theorem saved_zero {t : Thread} (begun : t.address ≠ p.start) (pos : Nat) :
    (p.saved pos t)[0]? = t.slots[0]? := by
  unfold saved
  split
  · rename_i slot next here
    have later : slot ≠ 0 := by
      rintro rfl
      by_cases zero : t.address = 0
      · rw [zero, framed.accepts] at here
        cases here
      · by_cases one : t.address = 1
        · rw [one, framed.closes] at here
          cases here
        · exact absurd ((framed.inner _ _ here zero one begun).2 0 next rfl) (by decide)
    exact Array.getElem?_setIfInBounds_ne later
  · rfl

end Framed

/-- Whether a thread is a match under way: it has yet to begin, or it remembers where the match
begins, and what it accepts from here completes the match. -/
inductive UnderWay (p : Program) (before : Option Char) (done rest : List Char) (t : Thread) : Prop
    where
  | fresh : t.address = p.start → UnderWay p before done rest t
  | begun (front back : List Char) : done = front ++ back →
      t.slots[0]? = some (some front.length) →
      (t.address = 0 → t.slots[1]? = some (some done.length)) →
      (∀ mid post, rest = mid ++ post → p.Accepts post.head? t.address (lastOr before done) mid →
        p.Accepts post.head? p.start (lastOr before front) (back ++ mid)) →
      UnderWay p before done rest t

/-- Whether slots tell where in a text a match begins and ends. -/
def Marks (p : Program) (before : Option Char) (text : List Char) (slots : Slots) : Prop :=
  ∃ front mid post, text = front ++ mid ++ post ∧ slots[0]? = some (some front.length) ∧
    slots[1]? = some (some (front.length + mid.length)) ∧
    p.Accepts post.head? p.start (lastOr before front) mid

/-- A follower reads what the instruction before it leads on to. -/
theorem Accepts.follow_rest {before : Option Char} {address next : Nat} {mid post rest : List Char}
    (split : rest = mid ++ post) (member : next ∈ p.followers before rest.head? address)
    (accepts : p.Accepts post.head? next before mid) : p.Accepts post.head? address before mid := by
  rw [split, List.head?_append] at member
  exact .follow member accepts

theorem Framed.carried_underWay (framed : p.Framed) (before : Option Char) :
    p.Carried before fun done rest t => t.slots.size = p.slots ∧ p.UnderWay before done rest t := by
  constructor
  · rintro done rest t ⟨sized, way⟩ s member
    obtain ⟨next, leads, rfl⟩ := List.mem_map.1 member
    obtain ⟨_, zero⟩ := framed.follower leads
    refine ⟨(size_saved done.length t).trans sized, ?_⟩
    by_cases start : t.address = p.start
    · -- The match begins here.
      obtain ⟨entry, opens⟩ := framed.opens
      rw [← start] at opens
      refine .begun done [] (List.append_nil _).symm (saved_self sized opens) ?_ ?_
      · intro eq
        rw [zero eq, framed.closes] at opens
        cases opens
      · intro mid post split accepts
        rw [← start]
        exact accepts.follow_rest split leads
    · obtain fresh | ⟨front, back, rfl, begin, _, complete⟩ := way
      · exact absurd fresh start
      · refine .begun front back rfl ((framed.saved_zero start _).trans begin) ?_ ?_
        · intro eq
          apply saved_self sized
          rw [zero eq]
          exact framed.closes
        · intro mid post split accepts
          exact complete mid post split (accepts.follow_rest split leads)
  · rintro done rest c t set next ⟨sized, way⟩ here taken
    refine ⟨sized, ?_⟩
    obtain fresh | ⟨front, back, rfl, begin, _, complete⟩ := way
    · -- No character is taken before the match has begun.
      obtain ⟨entry, opens⟩ := framed.opens
      rw [fresh, opens] at here
      cases here
    · refine .begun front (back ++ [c]) (List.append_assoc _ _ _) begin ?_ ?_
      · intro eq
        have closing := (framed.lands _ _ here next (List.mem_singleton_self _)).2 eq
        rw [closing, framed.closes] at here
        cases here
      · intro mid post split accepts
        rw [lastOr_concat] at accepts
        rw [List.append_assoc]
        exact complete (c :: mid) post (by rw [split]; rfl) (.take here taken accepts)

/-- A thread that accepts marks a match. -/
theorem Framed.marks (framed : p.Framed) {before : Option Char} {done rest : List Char} {t : Thread}
    (way : p.UnderWay before done rest t) (accept : p.code[t.address]? = some .accept) :
    p.Marks before (done ++ rest) t.slots := by
  obtain fresh | ⟨front, back, rfl, begin, finish, complete⟩ := way
  · obtain ⟨entry, opens⟩ := framed.opens
    rw [fresh, opens] at accept
    cases accept
  · have whole := complete [] rest rfl (.accept accept)
    rw [List.append_nil] at whole
    refine ⟨front, back, rest, rfl, begin, ?_, whole⟩
    rw [finish (framed.eq_zero_of_accept accept), List.length_append]

theorem Framed.marks_of_search (framed : p.Framed) {before : Option Char} {text : List Char}
    {slots : Slots} (found : p.search before text = some slots) : p.Marks before text slots := by
  refine (framed.carried_underWay before).search ?_ ?_ slots found
  · exact fun done rest => ⟨Array.size_replicate, .fresh rfl⟩
  · rintro done rest t rfl ⟨_, way⟩ accept
    exact framed.marks way accept

end Program

/-- Whether a pattern matches a text that stands between two neighbours. -/
def Matches (p : Pattern) (left : Option Char) (mid : List Char) (right : Option Char) : Prop :=
  p.program.Accepts right p.program.start left mid

variable {p : Pattern} {before : Option Char} {cs : List Char}

/-- What a search remembers is what is found. -/
theorem exists_findIn (framed : p.program.Framed) {slots : Slots}
    (searched : p.program.search before cs = some slots) :
    ∃ front mid post, cs = front ++ mid ++ post ∧ slots[0]? = some (some front.length) ∧
      p.findIn before cs = some (front.length, mid.length, groupTexts slots cs) ∧
      p.Matches (lastOr before front) mid post.head? := by
  obtain ⟨front, mid, post, split, begin, finish, accepts⟩ := framed.marks_of_search searched
  refine ⟨front, mid, post, split, begin, ?_, accepts⟩
  have span : span? slots 0 = some (front.length, front.length + mid.length) := by
    simp only [span?, begin, finish]
  simp only [findIn, searched, span, Option.map_some, Nat.add_sub_cancel_left]

/-- What is found is a match where it is found. -/
theorem findIn_sound (framed : p.program.Framed) {start size : Nat} {groups : List (Option String)}
    (found : p.findIn before cs = some (start, size, groups)) :
    ∃ front mid post, cs = front ++ mid ++ post ∧ front.length = start ∧ mid.length = size ∧
      p.Matches (lastOr before front) mid post.head? := by
  cases searched : p.program.search before cs with
  | none =>
    unfold findIn at found
    rw [searched] at found
    cases found
  | some slots =>
    obtain ⟨front, mid, post, split, _, here, matched⟩ := exists_findIn framed searched
    rw [here] at found
    cases found
    exact ⟨front, mid, post, split, rfl, rfl, matched⟩

end Transclusion.Pattern
