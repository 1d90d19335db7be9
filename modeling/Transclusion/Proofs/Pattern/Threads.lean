import Transclusion.Pattern.Basic

/-!
# The threads of a search

A search moves all its threads along at once and drops those that have been overtaken. Most of what
is said of a search is said of one thread at a time: it holds of a new thread, and it goes over to
the threads that follow on one for which it holds.

## Main results

`Carried.search`: what goes over from thread to thread holds of the one that has accepted.
-/

namespace Transclusion.Pattern

namespace Program

/-- The addresses that an instruction leads on to between two neighbours, without a character. -/
def followers (p : Program) (before after : Option Char) (address : Nat) : List Nat :=
  match p.code[address]? with
  | some (.fork first second) => [first, second]
  | some (.check anchor next) => if anchor.holds before after then [next] else []
  | some (.save _ next) => [next]
  | _ => []

/-- What a thread remembers once it has left its address. -/
def saved (p : Program) (pos : Nat) (t : Thread) : Slots :=
  match p.code[t.address]? with
  | some (.save slot _) => t.slots.setIfInBounds slot (some pos)
  | _ => t.slots

/-- The threads that go on from a thread without a character. -/
def ahead (p : Program) (pos : Nat) (before after : Option Char) (t : Thread) : List Thread :=
  (p.followers before after t.address).map fun next => ⟨next, p.saved pos t⟩

/-- Whether a thread stays at an address until a character is read. -/
def waits (p : Program) (address : Nat) : Bool :=
  match p.code[address]? with
  | some (.take ..) | some .accept => true
  | _ => false

variable {p : Program}

theorem settle_nil (pos : Nat) (before after : Option Char) (fuel : Nat) (seen : Array Bool)
    (settled : List Thread) : p.settle pos before after fuel [] seen settled = settled.reverse := by
  cases fuel <;> rfl

theorem settle_seen {pos fuel : Nat} {before after : Option Char} {t : Thread} {seen : Array Bool}
    (visited : seen.getD t.address true = true) (pending settled : List Thread) :
    p.settle pos before after (fuel + 1) (t :: pending) seen settled =
      p.settle pos before after fuel pending seen settled := by
  rw [settle, if_pos visited]

theorem settle_unseen {pos fuel : Nat} {before after : Option Char} {t : Thread}
    {seen : Array Bool} (unvisited : seen.getD t.address true = false)
    (pending settled : List Thread) :
    p.settle pos before after (fuel + 1) (t :: pending) seen settled =
      p.settle pos before after fuel (p.ahead pos before after t ++ pending)
        (seen.setIfInBounds t.address true)
        (if p.waits t.address then t :: settled else settled) := by
  rw [settle, unvisited, if_neg Bool.false_ne_true]
  unfold ahead followers saved waits
  cases p.code[t.address]? with
  | none => rfl
  | some instr =>
    cases instr with
    | check anchor next =>
      cases holds : anchor.holds before after <;> simp [holds]
    | _ => rfl

/-- Whether a property of threads, which may depend on what has been read and what is left, goes
over to the threads that go on. -/
structure Carried (p : Program) (before : Option Char) (P : List Char → List Char → Thread → Prop) :
    Prop where
  follow : ∀ {done rest : List Char} {t : Thread}, P done rest t →
    ∀ s ∈ p.ahead done.length (lastOr before done) rest.head? t, P done rest s
  take : ∀ {done : List Char} (rest : List Char) {c : Char} {t : Thread} {set : CharSet}
    {next : Nat}, P done (c :: rest) t → p.code[t.address]? = some (.take set next) → set.contains c →
    P (done ++ [c]) rest ⟨next, t.slots⟩

variable {before : Option Char} {P : List Char → List Char → Thread → Prop}

theorem Carried.settle (carried : p.Carried before P) {done rest : List Char} (fuel : Nat)
    {pending settled : List Thread} (seen : Array Bool) (waiting : ∀ t ∈ pending, P done rest t)
    (stopped : ∀ t ∈ settled, P done rest t) :
    ∀ t ∈ p.settle done.length (lastOr before done) rest.head? fuel pending seen settled,
      P done rest t := by
  induction fuel generalizing pending settled seen with
  | zero => exact fun t member => stopped t (List.mem_reverse.1 member)
  | succ fuel ih =>
    cases pending with
    | nil => exact fun t member => stopped t (List.mem_reverse.1 member)
    | cons t pending =>
      obtain ⟨first, others⟩ := List.forall_mem_cons.1 waiting
      cases visited : seen.getD t.address true with
      | true =>
        rw [settle_seen visited]
        exact ih seen others stopped
      | false =>
        rw [settle_unseen visited]
        apply ih
        · exact List.forall_mem_append.2 ⟨carried.follow first, others⟩
        · split
          · exact List.forall_mem_cons.2 ⟨first, stopped⟩
          · exact stopped

theorem Carried.advance (carried : p.Carried before P) {done : List Char} (rest : List Char)
    {c : Char} {threads : List Thread} (all : ∀ t ∈ threads, P done (c :: rest) t) :
    ∀ t ∈ p.advance c threads, P (done ++ [c]) rest t := by
  intro moved member
  obtain ⟨t, here, step⟩ := List.mem_filterMap.1 member
  split at step
  · rename_i set next take
    split at step
    · rename_i taken
      cases step
      exact carried.take rest (all t here) take taken
    · cases step
  · cases step

theorem mem_of_mem_untilAccept {threads : List Thread} {t : Thread}
    (member : t ∈ (p.untilAccept threads).1) : t ∈ threads := by
  induction threads with
  | nil => exact member
  | cons first threads ih =>
    unfold untilAccept at member
    split at member
    · cases member
    · rcases List.mem_cons.1 member with rfl | later
      · exact List.mem_cons_self
      · exact List.mem_cons_of_mem _ (ih later)

theorem accepting_of_untilAccept {threads : List Thread} {slots : Slots}
    (found : (p.untilAccept threads).2 = some slots) :
    ∃ t ∈ threads, p.code[t.address]? = some .accept ∧ t.slots = slots := by
  induction threads with
  | nil => cases found
  | cons first threads ih =>
    unfold untilAccept at found
    split at found
    · rename_i accept
      exact ⟨first, List.mem_cons_self, accept, Option.some.inj found⟩
    · obtain ⟨t, member, accepting⟩ := ih found
      exact ⟨t, List.mem_cons_of_mem _ member, accepting⟩

/-- The threads at a position, with a new one at the lowest preference until a match is found. -/
def started (p : Program) (fresh : Slots) (threads : List Thread) (best : Option Slots) :
    List Thread :=
  if best.isNone then threads ++ [⟨p.start, fresh⟩] else threads

/-- What the threads at a position come to before the next character: those still preferred, and the
match that they are preferred to. -/
def reached (p : Program) (pos : Nat) (before after : Option Char) (threads : List Thread) :
    List Thread × Option Slots :=
  p.untilAccept (p.settle pos before after (2 * p.code.size + threads.length + 1) threads
    (Array.replicate p.code.size false) [])

theorem reached_nil (pos : Nat) (before after : Option Char) :
    p.reached pos before after [] = ([], none) := by
  rw [reached, settle_nil]
  rfl

theorem started_ne_nil {fresh : Slots} {threads : List Thread} :
    p.started fresh threads none ≠ [] := by
  simp [started]

theorem Carried.reached (carried : p.Carried before P) {done rest : List Char}
    {threads : List Thread} (all : ∀ t ∈ threads, P done rest t) :
    let now := p.reached done.length (lastOr before done) rest.head? threads
    (∀ t ∈ now.1, P done rest t) ∧ ∀ slots, now.2 = some slots →
      ∃ t, P done rest t ∧ p.code[t.address]? = some .accept ∧ t.slots = slots := by
  have settled := carried.settle (2 * p.code.size + threads.length + 1)
    (Array.replicate p.code.size false) all (List.forall_mem_nil _)
  refine ⟨fun t member => settled t (mem_of_mem_untilAccept member), fun slots found => ?_⟩
  obtain ⟨t, member, accepting⟩ := accepting_of_untilAccept found
  exact ⟨t, settled t member, accepting⟩

/-- Without a thread nothing better can be found. -/
theorem scan_exhausted (fresh slots : Slots) (pos : Nat) (before : Option Char) (rest : List Char) :
    p.scan fresh pos before [] (some slots) rest = some slots := by
  unfold scan
  rfl

theorem scan_nil (fresh : Slots) (pos : Nat) (before : Option Char) (threads : List Thread)
    (best : Option Slots) : p.scan fresh pos before threads best [] =
      (p.reached pos before none (p.started fresh threads best)).2.or best := by
  rw [scan.eq_def]
  change (if (p.started fresh threads best).isEmpty then best else
    (p.reached pos before none (p.started fresh threads best)).2.or best) = _
  cases p.started fresh threads best with
  | nil =>
    rw [reached_nil]
    rfl
  | cons t others => rfl

theorem lastOr_concat (before : Option Char) (done : List Char) (c : Char) :
    lastOr before (done ++ [c]) = some c := by
  simp [lastOr]

theorem scan_cons (fresh : Slots) (before : Option Char) (done : List Char) (threads : List Thread)
    (best : Option Slots) (c : Char) (rest : List Char) :
    let now := p.reached done.length (lastOr before done) (c :: rest).head?
      (p.started fresh threads best)
    p.scan fresh done.length (lastOr before done) threads best (c :: rest) =
      p.scan fresh (done ++ [c]).length (lastOr before (done ++ [c])) (p.advance c now.1)
        (now.2.or best) rest := by
  intro now
  rw [lastOr_concat, List.length_append, scan.eq_def]
  change (if (p.started fresh threads best).isEmpty then best else
    p.scan fresh (done.length + 1) (some c) (p.advance c now.1) (now.2.or best) rest) = _
  cases empty : p.started fresh threads best with
  | nil =>
    have nothing : now = ([], none) := by
      rw [← reached_nil, ← empty]
    rw [nothing]
    cases best with
    | none => exact absurd empty started_ne_nil
    | some slots => exact (scan_exhausted fresh slots (done.length + 1) (some c) rest).symm
  | cons t others => rfl

/-- One position of a search: the threads that are left and the best match. -/
theorem Carried.step (carried : p.Carried before P) {fresh : Slots} (done rest : List Char)
    {threads : List Thread} {best : Option Slots} {F : Slots → Prop}
    (new : P done rest ⟨p.start, fresh⟩)
    (accept : ∀ t, P done rest t → p.code[t.address]? = some .accept → F t.slots)
    (all : ∀ t ∈ threads, P done rest t) (kept : ∀ slots, best = some slots → F slots) :
    let now := p.reached done.length (lastOr before done) rest.head? (p.started fresh threads best)
    (∀ t ∈ now.1, P done rest t) ∧ ∀ slots, now.2.or best = some slots → F slots := by
  intro now
  have starting : ∀ t ∈ p.started fresh threads best, P done rest t := by
    unfold started
    split
    · exact List.forall_mem_append.2 ⟨all, List.forall_mem_singleton.2 new⟩
    · exact all
  obtain ⟨alive, accepting⟩ := carried.reached starting
  refine ⟨alive, fun slots better => ?_⟩
  rcases Option.or_eq_some_iff.1 better with here | ⟨_, earlier⟩
  · obtain ⟨t, holds, accepts, rfl⟩ := accepting slots here
    exact accept t holds accepts
  · exact kept slots earlier

theorem Carried.scan (carried : p.Carried before P) {fresh : Slots} {text : List Char}
    {F : Slots → Prop} (new : ∀ done rest, P done rest ⟨p.start, fresh⟩)
    (accept : ∀ done rest t, text = done ++ rest → P done rest t →
      p.code[t.address]? = some .accept → F t.slots)
    {done rest : List Char} {threads : List Thread} {best : Option Slots}
    (split : text = done ++ rest) (all : ∀ t ∈ threads, P done rest t)
    (kept : ∀ slots, best = some slots → F slots) :
    ∀ slots, p.scan fresh done.length (lastOr before done) threads best rest = some slots →
      F slots := by
  induction rest generalizing done threads best with
  | nil =>
    rw [scan_nil]
    exact (carried.step done [] (new done []) (accept done [] · split) all kept).2
  | cons c rest ih =>
    obtain ⟨alive, better⟩ := carried.step done (c :: rest) (new done (c :: rest))
      (accept done (c :: rest) · split) all kept
    rw [scan_cons]
    rw [List.append_cons] at split
    exact ih split (carried.advance rest alive) better

/-- A whole search: what goes over from thread to thread holds of the one that has accepted. -/
theorem Carried.search (carried : p.Carried before P) {text : List Char} {F : Slots → Prop}
    (new : ∀ done rest, P done rest ⟨p.start, Array.replicate p.slots none⟩)
    (accept : ∀ done rest t, text = done ++ rest → P done rest t →
      p.code[t.address]? = some .accept → F t.slots) :
    ∀ slots, p.search before text = some slots → F slots := by
  have unmatched : ∀ slots, (none : Option Slots) = some slots → F slots := by
    rintro _ ⟨⟩
  have start : text = [] ++ text := rfl
  exact carried.scan new accept start (List.forall_mem_nil _) unmatched

end Program

end Transclusion.Pattern
