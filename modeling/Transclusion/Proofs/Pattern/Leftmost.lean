import Transclusion.Proofs.Pattern.Runs

/-!
# The leftmost match

A search follows every way through the code that a text allows. At one position no address is
visited twice, but the thread that came first is preferred, and it can go on wherever a later one
could. So no match begins before the one that is found.

## Main results

`findIn_leftmost`: if there is a match, one is found that begins no later.
-/

namespace Transclusion.Pattern

/-- Whether slots remember no match that begins behind a place. -/
def Slots.Early (place : Nat) (slots : Slots) : Prop :=
  ∀ start, slots[0]? = some (some start) → start ≤ place

namespace Program

/-- Whether an address has been visited, or is none of the code. -/
def Visited (seen : Array Bool) (address : Nat) : Prop := seen.getD address true = true

/-- Whether what follows on the visited addresses has been visited or is about to be, and whether
threads wait wherever one may. -/
structure Explored (p : Program) (before after : Option Char) (seen : Array Bool)
    (settled first : List Thread) : Prop where
  follows : ∀ address, Visited seen address → ∀ next ∈ p.followers before after address,
    Visited seen next ∨ ∃ t ∈ first, t.address = next
  waits : ∀ address, Visited seen address → p.waits address = true →
    ∃ t ∈ settled, t.address = address

variable {p : Program} {pos : Nat} {before after : Option Char}

theorem visited_set {seen : Array Bool} {address : Nat} (other : Nat) :
    Visited (seen.setIfInBounds address true) other ↔ other = address ∨ Visited seen other := by
  unfold Visited
  rw [Array.getD_eq_getD_getElem?, Array.getD_eq_getD_getElem?, Array.getElem?_setIfInBounds]
  by_cases same : address = other
  · subst same
    by_cases inside : address < seen.size <;> simp [inside]
  · simp [same, Ne.symm same]

theorem count_visit {seen : Array Bool} {address : Nat}
    (unvisited : seen.getD address true = false) :
    (seen.setIfInBounds address true).count false + 1 = seen.count false := by
  rw [Array.getD_eq_getD_getElem?] at unvisited
  cases here : seen[address]? with
  | none =>
    rw [here] at unvisited
    cases unvisited
  | some value =>
    rw [here] at unvisited
    obtain ⟨inside, now⟩ := Array.getElem?_eq_some_iff.1 here
    cases (unvisited : value = false)
    have member : 0 < seen.count false := by
      rw [Array.count_pos_iff, ← now]
      exact Array.getElem_mem inside
    rw [Array.setIfInBounds, dif_pos inside, Array.count_set, now]
    simp
    omega

theorem settle_append (fuel : Nat) (pending : List Thread) (seen : Array Bool)
    (settled : List Thread) :
    ∃ more, p.settle pos before after fuel pending seen settled = settled.reverse ++ more := by
  induction fuel generalizing pending seen settled with
  | zero => exact ⟨[], (List.append_nil _).symm⟩
  | succ fuel ih =>
    cases pending with
    | nil => exact ⟨[], (List.append_nil _).symm⟩
    | cons t pending =>
      cases visited : seen.getD t.address true with
      | true =>
        rw [settle_seen visited]
        exact ih _ _ _
      | false =>
        rw [settle_unseen visited]
        split
        · obtain ⟨more, eq⟩ := ih (p.ahead pos before after t ++ pending)
            (seen.setIfInBounds t.address true) (t :: settled)
          refine ⟨t :: more, ?_⟩
          rw [eq, List.reverse_cons, List.append_assoc]
          rfl
        · exact ih _ _ _

theorem length_ahead_le (p : Program) (pos : Nat) (before after : Option Char) (t : Thread) :
    (p.ahead pos before after t).length ≤ 2 := by
  rw [ahead, List.length_map]
  unfold followers
  split
  · exact Nat.le_refl 2
  · split <;> simp
  · simp
  · simp

theorem explored_unvisited (p : Program) (before after : Option Char) (first : List Thread) :
    p.Explored before after (Array.replicate p.code.size false) [] first := by
  have outside (address : Nat) (visited : Visited (Array.replicate p.code.size false) address) :
      p.code[address]? = none := by
    unfold Visited at visited
    rw [Array.getD_eq_getD_getElem?, Array.getElem?_replicate] at visited
    split at visited
    · cases visited
    · rename_i beyond
      exact Array.getElem?_eq_none (Nat.le_of_not_lt beyond)
  constructor
  · intro address visited next follows
    rw [followers, outside address visited] at follows
    cases follows
  · intro address visited waiting
    rw [waits, outside address visited] at waiting
    cases waiting

theorem Explored.skip {seen : Array Bool} {settled first : List Thread} {t : Thread}
    (explored : p.Explored before after seen settled (t :: first))
    (visited : Visited seen t.address) : p.Explored before after seen settled first := by
  refine ⟨fun address here next follows => ?_, explored.waits⟩
  rcases explored.follows address here next follows with before | ⟨s, member, rfl⟩
  · exact .inl before
  · rcases List.mem_cons.1 member with rfl | later
    · exact .inl visited
    · exact .inr ⟨s, later, rfl⟩

theorem Explored.visit {seen : Array Bool} {settled first : List Thread} {t : Thread}
    (explored : p.Explored before after seen settled (t :: first)) (pos : Nat) :
    p.Explored before after (seen.setIfInBounds t.address true)
      (if p.waits t.address then t :: settled else settled)
      (p.ahead pos before after t ++ first) := by
  constructor
  · intro address here next follows
    rw [visited_set] at here ⊢
    rcases here with rfl | here
    · exact .inr ⟨⟨next, p.saved pos t⟩,
        List.mem_append_left _ (List.mem_map_of_mem follows), rfl⟩
    · rcases explored.follows address here next follows with before | ⟨s, member, rfl⟩
      · exact .inl (.inr before)
      · rcases List.mem_cons.1 member with rfl | later
        · exact .inl (.inl rfl)
        · exact .inr ⟨s, List.mem_append_right _ later, rfl⟩
  · intro address here waiting
    rcases (visited_set address).1 here with rfl | here
    · rw [if_pos waiting]
      exact ⟨t, List.mem_cons_self, rfl⟩
    · obtain ⟨s, member, rfl⟩ := explored.waits address here waiting
      split
      · exact ⟨s, List.mem_cons_of_mem _ member, rfl⟩
      · exact ⟨s, member, rfl⟩

/-- The threads that the first pending ones come to are settled before all others, and wherever
those lead a thread waits. -/
theorem exists_settled {P : Thread → Prop}
    (carried : ∀ t, P t → ∀ s ∈ p.ahead pos before after t, P s) (fuel : Nat)
    {first settled : List Thread} (post : List Thread) {seen : Array Bool}
    (enough : first.length + 2 * seen.count false ≤ fuel)
    (explored : p.Explored before after seen settled first)
    (leading : ∀ t ∈ first, P t) (stopped : ∀ t ∈ settled, P t) :
    ∃ reached seen' more,
      p.settle pos before after fuel (first ++ post) seen settled = reached ++ more ∧
      p.Explored before after seen' reached [] ∧ (∀ t ∈ reached, P t) ∧
      (∀ address, Visited seen address → Visited seen' address) ∧
      ∀ t ∈ first, Visited seen' t.address := by
  have stop (fuel : Nat) {settled : List Thread} {seen : Array Bool}
      (explored : p.Explored before after seen settled []) (stopped : ∀ t ∈ settled, P t) :
      ∃ reached seen' more, p.settle pos before after fuel post seen settled = reached ++ more ∧
        p.Explored before after seen' reached [] ∧ (∀ t ∈ reached, P t) ∧
        ∀ address, Visited seen address → Visited seen' address := by
    obtain ⟨more, eq⟩ := settle_append (p := p) fuel post seen settled
    refine ⟨settled.reverse, seen, more, eq, ⟨explored.follows, ?_⟩, ?_, fun _ here => here⟩
    · simpa only [List.mem_reverse] using explored.waits
    · simpa only [List.mem_reverse] using stopped
  -- Every step uses up a pending thread, or visits an address and adds at most two threads.
  induction fuel generalizing first settled seen with
  | zero =>
    have empty : first = [] := List.eq_nil_of_length_eq_zero (by omega)
    subst empty
    obtain ⟨reached, seen', more, eq, closed, all, wider⟩ := stop 0 explored stopped
    exact ⟨reached, seen', more, eq, closed, all, wider, List.forall_mem_nil _⟩
  | succ fuel ih =>
    cases first with
    | nil =>
      obtain ⟨reached, seen', more, eq, closed, all, wider⟩ := stop (fuel + 1) explored stopped
      exact ⟨reached, seen', more, eq, closed, all, wider, List.forall_mem_nil _⟩
    | cons t first =>
      obtain ⟨here, others⟩ := List.forall_mem_cons.1 leading
      rw [List.length_cons] at enough
      rw [List.cons_append]
      cases visited : seen.getD t.address true with
      | true =>
        rw [settle_seen visited]
        obtain ⟨reached, seen', more, eq, closed, all, wider, marked⟩ :=
          ih (by omega) (explored.skip visited) others stopped
        exact ⟨reached, seen', more, eq, closed, all, wider,
          List.forall_mem_cons.2 ⟨wider _ visited, marked⟩⟩
      | false =>
        rw [settle_unseen visited, ← List.append_assoc]
        have fewer := count_visit visited
        have few := length_ahead_le p pos before after t
        obtain ⟨reached, seen', more, eq, closed, all, wider, marked⟩ :=
          ih (by rw [List.length_append]; omega) (explored.visit pos)
            (List.forall_mem_append.2 ⟨carried t here, others⟩)
            (by split
                · exact List.forall_mem_cons.2 ⟨here, stopped⟩
                · exact stopped)
        refine ⟨reached, seen', more, eq, closed, all, ?_, ?_⟩
        · exact fun address before => wider address ((visited_set _).2 (.inr before))
        · refine List.forall_mem_cons.2 ⟨?_, ?_⟩
          · exact wider _ ((visited_set _).2 (.inl rfl))
          · exact fun s member => marked s (List.mem_append_right _ member)

/-- Where code that accepts has been visited, a thread waits that accepts the same. -/
theorem Explored.exists_waiting {right : Option Char} {seen : Array Bool} {settled : List Thread}
    {address : Nat} {mid : List Char}
    (explored : p.Explored before (mid.head?.or right) seen settled [])
    (accepts : p.Accepts right address before mid) (visited : Visited seen address) :
    ∃ t ∈ settled, p.waits t.address = true ∧ p.Accepts right t.address before mid := by
  have waiting {address : Nat} {before : Option Char} {mid : List Char}
      (explored : p.Explored before (mid.head?.or right) seen settled [])
      (accepts : p.Accepts right address before mid) (visited : Visited seen address)
      (waits : p.waits address = true) :
      ∃ t ∈ settled, p.waits t.address = true ∧ p.Accepts right t.address before mid := by
    obtain ⟨t, member, rfl⟩ := explored.waits address visited waits
    exact ⟨t, member, waits, accepts⟩
  induction accepts with
  | accept here =>
    exact waiting explored (.accept here) visited (by rw [Program.waits, here])
  | follow next accepts ih =>
    rcases explored.follows _ visited _ next with visited | ⟨t, member, _⟩
    · exact ih explored visited
    · cases member
  | take here taken accepts =>
    exact waiting explored (.take here taken accepts) visited (by rw [Program.waits, here])

/-- Accepting code that waits either has accepted or takes a character. -/
theorem Accepts.taking {right : Option Char} {address : Nat} {mid : List Char}
    (accepts : p.Accepts right address before mid) (waits : p.waits address = true)
    (other : p.code[address]? ≠ some .accept) :
    ∃ set next c more, p.code[address]? = some (.take set next) ∧ mid = c :: more ∧
      set.contains c = true ∧ p.Accepts right next (some c) more := by
  cases accepts with
  | accept here => exact absurd here other
  | follow next _ =>
    unfold Program.waits at waits
    unfold followers at next
    split at waits
    · rename_i here
      rw [here] at next
      cases next
    · contradiction
    · cases waits
  | take here taken accepts => exact ⟨_, _, _, _, here, rfl, taken, accepts⟩

/-- A thread among the first is left, after others of them, or one of them is the best match. -/
theorem untilAccept_append {P : Thread → Prop} {first : List Thread} (more : List Thread)
    {w : Thread} (member : w ∈ first) (all : ∀ t ∈ first, P t) :
    (∃ t, P t ∧ (p.untilAccept (first ++ more)).2 = some t.slots ∧
      ∀ s ∈ (p.untilAccept (first ++ more)).1, P s) ∨
    (p.code[w.address]? ≠ some .accept ∧
      ∃ pre others, (p.untilAccept (first ++ more)).1 = pre ++ w :: others ∧ ∀ t ∈ pre, P t) := by
  induction first with
  | nil => cases member
  | cons t first ih =>
    obtain ⟨here, later⟩ := List.forall_mem_cons.1 all
    rw [List.cons_append]
    unfold untilAccept
    split
    · exact .inl ⟨t, here, rfl, List.forall_mem_nil _⟩
    · rename_i other
      rcases List.mem_cons.1 member with rfl | member
      · exact .inr ⟨other, [], _, rfl, List.forall_mem_nil _⟩
      · rcases ih member later with ⟨s, best, found, alive⟩ | ⟨other, pre, others, eq, alive⟩
        · exact .inl ⟨s, best, found, List.forall_mem_cons.2 ⟨here, alive⟩⟩
        · dsimp only
          rw [eq]
          exact .inr ⟨other, t :: pre, others, rfl, List.forall_mem_cons.2 ⟨here, alive⟩⟩

/-- What becomes of a thread that accepts a text: one that is not less preferred has accepted, or
takes the next character of that text. -/
theorem reached_of_accepts {P : Thread → Prop}
    {threads pre others : List Thread} {u : Thread} {rest mid post : List Char}
    (carried : ∀ t, P t → ∀ s ∈ p.ahead pos before rest.head? t, P s)
    (ordered : threads = pre ++ u :: others) (preferred : ∀ t ∈ pre, P t) (here : P u)
    (split : rest = mid ++ post) (accepts : p.Accepts post.head? u.address before mid) :
    let now := p.reached pos before rest.head? threads
    (∃ t, P t ∧ now.2 = some t.slots ∧ ∀ s ∈ now.1, P s) ∨
    ∃ pre' w others' set next c more, now.1 = pre' ++ w :: others' ∧ (∀ t ∈ pre', P t) ∧ P w ∧
      p.code[w.address]? = some (.take set next) ∧ mid = c :: more ∧ set.contains c = true ∧
      p.Accepts post.head? next (some c) more := by
  intro now
  have leading : ∀ t ∈ pre ++ [u], P t :=
    List.forall_mem_append.2 ⟨preferred, List.forall_mem_singleton.2 here⟩
  have shape : threads = pre ++ [u] ++ others := by simp [ordered]
  obtain ⟨reached, seen, more, eq, closed, all, _, visited⟩ := exists_settled carried
    (2 * p.code.size + threads.length + 1) others (by simp [shape]; omega)
    (explored_unvisited p before rest.head? _) leading (List.forall_mem_nil _)
  rw [← shape] at eq
  rw [split, List.head?_append] at closed
  obtain ⟨w, member, waiting, accepts⟩ := closed.exists_waiting accepts
    (visited u (List.mem_append_right _ List.mem_cons_self))
  have now_eq : now = p.untilAccept (reached ++ more) := by
    rw [← eq]
    rfl
  rw [now_eq]
  rcases untilAccept_append more member all with found | ⟨other, pre', others', eq, alive⟩
  · exact .inl found
  · obtain ⟨set, next, c, more, take, rfl, taken, accepts⟩ := accepts.taking waiting other
    exact .inr ⟨pre', w, others', set, next, c, more, eq, alive, all w member, take, rfl, taken,
      accepts⟩

/-- Whether a thread remembers no match that begins behind a place, and begins none there. -/
def EarlyThread (p : Program) (place : Nat) (done : List Char) (t : Thread) : Prop :=
  t.slots.Early place ∧ (t.address = p.start → done.length ≤ place)

theorem Framed.carried_early (framed : p.Framed) (before : Option Char) (place : Nat) :
    p.Carried before fun done _ t => p.EarlyThread place done t := by
  constructor
  · rintro done rest t ⟨early, start⟩ s member
    obtain ⟨next, leads, rfl⟩ := List.mem_map.1 member
    refine ⟨fun begin here => ?_, fun eq => absurd eq (framed.follower leads).1⟩
    by_cases at_start : t.address = p.start
    · obtain ⟨entry, opens⟩ := framed.opens
      have now : p.saved done.length t = t.slots.setIfInBounds 0 (some done.length) := by
        unfold saved
        rw [at_start, opens]
      dsimp only at here
      rw [now, Array.getElem?_setIfInBounds, if_pos rfl] at here
      split at here
      · cases here
        exact start at_start
      · cases here
    · dsimp only at here
      rw [framed.saved_zero at_start] at here
      exact early begin here
  · rintro done rest c t set next ⟨early, _⟩ here _
    refine ⟨early, fun eq => ?_⟩
    exact absurd eq (framed.lands _ _ here next (List.mem_singleton_self _)).1

theorem exists_started (fresh : Slots) (threads : List Thread) (best : Option Slots) :
    ∃ more, p.started fresh threads best = threads ++ more := by
  unfold started
  split
  · exact ⟨_, rfl⟩
  · exact ⟨[], (List.append_nil _).symm⟩

theorem advance_append (c : Char) (threads more : List Thread) :
    p.advance c (threads ++ more) = p.advance c threads ++ p.advance c more :=
  List.filterMap_append

theorem advance_cons {c : Char} {set : CharSet} {next : Nat} {t : Thread} {threads : List Thread}
    (take : p.code[t.address]? = some (.take set next)) (taken : set.contains c = true) :
    p.advance c (t :: threads) = ⟨next, t.slots⟩ :: p.advance c threads := by
  apply List.filterMap_cons_some
  rw [take]
  exact if_pos taken

variable {place : Nat}

/-- Once there is an early match, only earlier ones are preferred to it. -/
theorem Framed.scan_kept (framed : p.Framed) {fresh : Slots} {done rest : List Char}
    {threads : List Thread} {best : Slots} (early : ∀ t ∈ threads, p.EarlyThread place done t)
    (kept : best.Early place) :
    ∃ slots, p.scan fresh done.length (lastOr before done) threads (some best) rest = some slots ∧
      slots.Early place := by
  have step (done rest : List Char) {threads : List Thread} {best : Slots}
      (early : ∀ t ∈ threads, p.EarlyThread place done t) (kept : best.Early place) :
      let now := p.reached done.length (lastOr before done) rest.head? threads
      (∀ t ∈ now.1, p.EarlyThread place done t) ∧
        ∃ slots, now.2.or (some best) = some slots ∧ slots.Early place := by
    intro now
    obtain ⟨alive, accepting⟩ := (framed.carried_early before place).reached early
    refine ⟨alive, ?_⟩
    cases found : now.2 with
    | none => exact ⟨best, rfl, kept⟩
    | some slots =>
      obtain ⟨t, here, _, rfl⟩ := accepting slots found
      exact ⟨t.slots, rfl, here.1⟩
  induction rest generalizing done threads best with
  | nil =>
    rw [scan_nil]
    exact (step done [] early kept).2
  | cons c rest ih =>
    obtain ⟨alive, slots, better, kept⟩ := step done (c :: rest) early kept
    rw [scan_cons]
    change ∃ slots, p.scan _ _ _ _ ((p.reached _ _ _ threads).2.or (some best)) _ = some slots ∧ _
    rw [better]
    exact ih ((framed.carried_early before place).advance rest alive) kept

/-- A thread that accepts a text, and those preferred to it, keep any other from being found. -/
theorem Framed.scan_accepting (framed : p.Framed) {fresh : Slots} {done rest mid post : List Char}
    {threads pre others : List Thread} {u : Thread} {best : Option Slots}
    (ordered : p.started fresh threads best = pre ++ u :: others)
    (preferred : ∀ t ∈ pre, p.EarlyThread place done t) (here : p.EarlyThread place done u)
    (split : rest = mid ++ post)
    (accepts : p.Accepts post.head? u.address (lastOr before done) mid) :
    ∃ slots, p.scan fresh done.length (lastOr before done) threads best rest = some slots ∧
      slots.Early place := by
  have carried := framed.carried_early before place
  induction rest generalizing done threads pre u others best mid with
  | nil =>
    rw [scan_nil]
    rcases reached_of_accepts (fun t => carried.follow) ordered preferred here split
      accepts with ⟨t, early, found, _⟩ | ⟨_, _, _, _, _, c, more, _, _, _, _, eq, _⟩
    · rw [List.head?_nil] at found
      rw [found]
      exact ⟨t.slots, rfl, early.1⟩
    · rw [eq] at split
      cases split
  | cons c rest ih =>
    have outcome := reached_of_accepts (fun t => carried.follow) ordered preferred here split
      accepts
    rw [scan_cons]
    generalize p.reached done.length (lastOr before done) (c :: rest).head?
      (p.started fresh threads best) = now at outcome ⊢
    rcases outcome with ⟨t, early, found, alive⟩ |
      ⟨pre', w, others', set, next, c', more, alive, first, early, take, eq, taken, accepts⟩
    · -- From here on the match that was found is given up only for a preferred one.
      rw [found]
      exact framed.scan_kept (carried.advance rest alive) early.1
    · rw [eq, List.cons_append, List.cons.injEq] at split
      obtain ⟨rfl, split⟩ := split
      -- A new thread may come last, so it is less preferred than the one that goes on.
      obtain ⟨later, added⟩ := exists_started (p := p) fresh (p.advance c now.1) (now.2.or best)
      rw [alive, advance_append, advance_cons take taken] at added ⊢
      rw [List.append_assoc, List.cons_append] at added
      refine ih added (carried.advance rest first) (carried.take rest early take taken) split ?_
      rw [lastOr_concat]
      exact accepts

/-- A search over a text that has a match comes to one that begins no later. -/
theorem Framed.scan_leftmost (framed : p.Framed) {fresh : Slots} (unset : fresh.Early place)
    (done : List Char) {front mid post : List Char} {threads : List Thread} {best : Option Slots}
    (begins : place = (done ++ front).length) (early : ∀ t ∈ threads, p.EarlyThread place done t)
    (kept : ∀ slots, best = some slots → slots.Early place)
    (accepts : p.Accepts post.head? p.start (lastOr before (done ++ front)) mid) :
    ∃ slots, p.scan fresh done.length (lastOr before done) threads best (front ++ (mid ++ post)) =
      some slots ∧ slots.Early place := by
  have carried := framed.carried_early before place
  have soon : done.length ≤ place := by
    rw [begins, List.length_append]
    exact Nat.le_add_right _ _
  induction front generalizing done threads best with
  | nil =>
    rw [List.append_nil] at accepts
    -- Where the match begins a new thread does, unless a match has been found before.
    cases best with
    | none =>
      have split : [] ++ (mid ++ post) = mid ++ post := rfl
      exact framed.scan_accepting (u := ⟨p.start, fresh⟩) rfl early ⟨unset, fun _ => soon⟩ split
        accepts
    | some slots => exact framed.scan_kept early (kept slots rfl)
  | cons c front ih =>
    have onward : done ++ c :: front = done ++ [c] ++ front := by simp
    obtain ⟨alive, better⟩ := carried.step done (c :: (front ++ (mid ++ post)))
      ⟨unset, fun _ => soon⟩ (fun t early _ => early.1) early kept
    rw [List.cons_append, scan_cons]
    rw [onward] at begins accepts
    refine ih (done ++ [c]) begins (carried.advance (front ++ (mid ++ post)) alive) better accepts ?_
    rw [begins]
    simp

end Program

/-- If a pattern matches somewhere, a match is found that begins no later. -/
theorem findIn_leftmost {p : Pattern} (framed : p.program.Framed) {before : Option Char}
    {front mid post : List Char} (matched : p.Matches (lastOr before front) mid post.head?) :
    ∃ start size groups, p.findIn before (front ++ (mid ++ post)) = some (start, size, groups) ∧
      start ≤ front.length := by
  have unset : Slots.Early front.length (Array.replicate p.program.slots none) := by
    intro start here
    rw [Array.getElem?_replicate] at here
    split at here <;> cases here
  have search : ∃ slots, p.program.search before (front ++ (mid ++ post)) = some slots ∧
      slots.Early front.length := by
    refine framed.scan_leftmost unset [] rfl (List.forall_mem_nil _) ?_ matched
    rintro _ ⟨⟩
  obtain ⟨slots, searched, early⟩ := search
  obtain ⟨front', mid', _, _, begin, found, _⟩ := exists_findIn framed searched
  exact ⟨_, _, _, found, early _ begin⟩

end Transclusion.Pattern
