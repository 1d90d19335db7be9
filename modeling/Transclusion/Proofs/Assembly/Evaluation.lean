import Transclusion.Proofs.Assembly.Segment
import Transclusion.Proofs.Fetching
import Transclusion.Proofs.Replies

/-!
# Evaluations

Assembling a document works off its texts, the matches in them and the blocks, and a block leads on
to another document. What an origin says is not smaller than what it was asked for, so nothing about
the documents tells that this comes to an end, and a resource may refer to itself. An evaluation is
a finite tree of all the work for one document. It counts the nesting from the outermost document
on, and keeps a log of the requests and of the documents they lead to.

## Main results

`Evaluates.run_eq`: an evaluation gives what the assembly gives.
`exists_evaluates`: there is an evaluation, whatever the origin says. The levels that are left
become fewer with every document, and the entries of its plan with every text in it.
-/

namespace Transclusion

variable {σ : Type}

namespace Assembly

/-- What happens in an assembly. -/
inductive Event where
  /-- A request for a block of a document that lies `level` references deep. -/
  | dispatched (level : Nat) (request : Request)
  /-- A document that lies `level` references deep, and the entries it is assembled by from the end
  of its plan. -/
  | opened (level : Nat) (stack : List PlanEntry) (text : String)

namespace Event

/-- The request of an event. -/
def request? : Event → Option Request
  | dispatched _ request => some request
  | opened .. => none

end Event

/-- The requests of a log, in order. -/
def requestsOf (log : List Event) : List Request := log.filterMap Event.request?

@[simp] theorem requestsOf_nil : requestsOf [] = [] := rfl

@[simp] theorem requestsOf_append (log more : List Event) :
    requestsOf (log ++ more) = requestsOf log ++ requestsOf more :=
  List.filterMap_append

@[simp] theorem requestsOf_dispatched (level : Nat) (request : Request) (log : List Event) :
    requestsOf (.dispatched level request :: log) = request :: requestsOf log := rfl

@[simp] theorem requestsOf_opened (level : Nat) (stack : List PlanEntry) (text : String)
    (log : List Event) : requestsOf (.opened level stack text :: log) = requestsOf log := rfl

/-- A piece of the work on a document. -/
inductive Call where
  /-- A text, by the entries that are left of the plan. -/
  | scope (stack : List PlanEntry) (text : String)
  /-- The matches of an entry with the gaps before them, and the text after the last. -/
  | cut (entry : PlanEntry) (rest : List PlanEntry) (pieces : List (String × Match)) (tail : String)
  /-- One match of an entry. -/
  | block (entry : PlanEntry) (m : Match)

/-- The entries that a document is assembled by, from the end of its plan. -/
def stackOf : Resolution → List PlanEntry
  | .plan entries => entries.reverse
  | _ => []

/-- The request that a block leads to, and how names resolve in what is requested; none if the block
has no reference or nothing is wanted of the resource. -/
def wanted? (a : Assembly σ) (matcher : Matcher) (names : List String) (m : Match) :
    Option (Request × Resolution) :=
  match matcher.findReference m.whole with
  | none => none
  | some reference =>
    let (uri, parameters) := parseReference reference
    let resolution := a.repository.resolve a.assemblage fetchMethod uri a.headers names true
    if resolution.proceeds then some (a.request uri parameters, resolution) else none

/-- The work for a call in a document that lies `level` references deep, from the state `s` to the
state `t`: the fragments it comes to and the log. References are followed from documents that lie
less than `limit` references deep. -/
inductive Evaluates (a : Assembly σ) (limit : Nat) :
    Nat → Call → σ → List String → List Event → σ → Prop where
  | exhausted (level : Nat) (text : String) (s : σ) :
      Evaluates a limit level (.scope [] text) s [text] [] s
  | passed {level entry rest text s values log t} (passed : entry.needsScan = false)
      (inner : Evaluates a limit level (.scope rest text) s values log t) :
      Evaluates a limit level (.scope (entry :: rest) text) s values log t
  | scanned {level entry rest text s values log t} (scanned : entry.needsScan = true)
      (inner : Evaluates a limit level (.cut entry rest (entry.matcher.pattern.cut text).pieces
        (entry.matcher.pattern.cut text).tail) s values log t) :
      Evaluates a limit level (.scope (entry :: rest) text) s values log t
  | last {level entry rest tail s values log t}
      (inner : Evaluates a limit level (.scope rest tail) s values log t) :
      Evaluates a limit level (.cut entry rest [] tail) s values log t
  | piece {level entry rest gap m pieces tail s before log t here log' u later log'' v}
      (first : Evaluates a limit level (.scope rest gap) s before log t)
      (second : Evaluates a limit level (.block entry m) t here log' u)
      (others : Evaluates a limit level (.cut entry rest pieces tail) u later log'' v) :
      Evaluates a limit level (.cut entry rest ((gap, m) :: pieces) tail) s
        (before ++ here ++ later) (log ++ log' ++ log'') v
  | stripped (level : Nat) (matcher : Matcher) (m : Match) (s : σ) :
      Evaluates a limit level (.block (.exclude matcher) m) s [] [] s
  | kept (level : Nat) (matcher : Matcher) (m : Match) (s : σ) :
      Evaluates a limit level (.block (.keep matcher) m) s [m.whole] [] s
  | atLimit {level : Nat} (reached : limit ≤ level) (matcher : Matcher) (names : List String)
      (m : Match) (s : σ) :
      Evaluates a limit level (.block (.expand matcher names) m) s [m.whole] [] s
  | unwanted {level matcher names m} (below : level < limit)
      (unwanted : a.wanted? matcher names m = none) (s : σ) :
      Evaluates a limit level (.block (.expand matcher names) m) s [m.whole] [] s
  | failed {level matcher names m request resolution s failure t} (below : level < limit)
      (wanted : a.wanted? matcher names m = some (request, resolution))
      (fetched : a.reader.fetch a.origin request s = ⟨.error failure, [request], t⟩) :
      Evaluates a limit level (.block (.expand matcher names) m) s
        [a.assemblage.renderFailure m.whole failure] [.dispatched level request] t
  | spliced {level matcher names m request resolution s content t values log u}
      (below : level < limit)
      (wanted : a.wanted? matcher names m = some (request, resolution))
      (fetched : a.reader.fetch a.origin request s = ⟨.ok content, [request], t⟩)
      (inner : Evaluates a limit (level + 1) (.scope (stackOf resolution) content) t values log u) :
      Evaluates a limit level (.block (.expand matcher names) m) s
        [a.assemblage.adjust (String.join values) (m.groups.map (·.getD ""))]
        (.dispatched level request :: .opened (level + 1) (stackOf resolution) content :: log) u

/-- A block is replaced by what it leads to as long as references may be followed. -/
theorem expand_succ (a : Assembly σ) (depth : Nat) (matcher : Matcher) (names : List String)
    (m : Match) : a.expand (depth + 1) matcher names m =
      match a.wanted? matcher names m with
      | none => pure m.whole
      | some (request, resolution) => do
        match ← a.reader.fetch a.origin request with
        | .error failure => return a.assemblage.renderFailure m.whole failure
        | .ok content =>
          let values ← fragments (a.expand depth) (stackOf resolution) content
          return a.assemblage.adjust (String.join values) (m.groups.map (·.getD "")) := by
  have assembled_eq (resolution : Resolution) (text : String) :
      assembled (a.expand depth) resolution text = (do
        return String.join (← fragments (a.expand depth) (stackOf resolution) text)) := by
    cases resolution with
    | halt => simp [assembled, stackOf, fragments, String.join]
    | verbatim => simp [assembled, stackOf, fragments, String.join]
    | plan entries => rfl
  unfold expand wanted?
  cases matcher.findReference m.whole with
  | none => rfl
  | some reference =>
    dsimp only
    generalize a.repository.resolve a.assemblage fetchMethod (parseReference reference).1 a.headers
      names true = resolution
    cases proceeds : resolution.proceeds with
    | false => rfl
    | true =>
      refine bind_congr fun reply => ?_
      cases reply with
      | error failure => rfl
      | ok content => simp only [assembled_eq, bind_assoc, pure_bind]

/-- What the assembly makes of a call when `depth` references may still be followed. -/
def Call.run (a : Assembly σ) (depth : Nat) : Call → Run σ (List String)
  | scope stack text => fragments (a.expand depth) stack text
  | cut entry rest pieces tail => do
    let front ← Run.gather (fun (gap, m) => do
      let before ← fragments (a.expand depth) rest gap
      return before ++ (← Assembly.block (a.expand depth) entry m)) pieces
    let last ← fragments (a.expand depth) rest tail
    return front ++ last
  | block entry m => Assembly.block (a.expand depth) entry m

namespace Call

/-- The segments of what a call works off. -/
def segments : Call → List Segment
  | scope stack text => Transclusion.segments stack text
  | cut entry rest pieces tail =>
    pieces.flatMap (fun (gap, m) =>
      Transclusion.segments rest gap ++ [.ofMatch rest.length entry m]) ++
        Transclusion.segments rest tail
  | block entry m => [.ofMatch 0 entry m]

theorem segments_passed {entry : PlanEntry} (passed : entry.needsScan = false)
    (rest : List PlanEntry) (text : String) :
    segments (.scope (entry :: rest) text) = segments (.scope rest text) :=
  segments_skip passed rest text

theorem segments_scanned {entry : PlanEntry} (scanned : entry.needsScan = true)
    (rest : List PlanEntry) (text : String) :
    segments (.scope (entry :: rest) text) =
      segments (.cut entry rest (entry.matcher.pattern.cut text).pieces
        (entry.matcher.pattern.cut text).tail) :=
  segments_scan scanned rest text

theorem segments_piece (entry : PlanEntry) (rest : List PlanEntry) (gap : String) (m : Match)
    (pieces : List (String × Match)) (tail : String) :
    segments (.cut entry rest ((gap, m) :: pieces) tail) =
      segments (.scope rest gap) ++ .ofMatch rest.length entry m ::
        segments (.cut entry rest pieces tail) := by
  simp only [segments, List.flatMap_cons, List.append_assoc, List.cons_append, List.nil_append]

theorem run_passed (a : Assembly σ) (depth : Nat) {entry : PlanEntry}
    (passed : entry.needsScan = false) (rest : List PlanEntry) (text : String) :
    run a depth (.scope (entry :: rest) text) = run a depth (.scope rest text) :=
  fragments_skip _ passed rest text

theorem run_scanned (a : Assembly σ) (depth : Nat) {entry : PlanEntry}
    (scanned : entry.needsScan = true) (rest : List PlanEntry) (text : String) :
    run a depth (.scope (entry :: rest) text) =
      run a depth (.cut entry rest (entry.matcher.pattern.cut text).pieces
        (entry.matcher.pattern.cut text).tail) :=
  fragments_scan _ scanned rest text

theorem run_last (a : Assembly σ) (depth : Nat) (entry : PlanEntry) (rest : List PlanEntry)
    (tail : String) : run a depth (.cut entry rest [] tail) = run a depth (.scope rest tail) := by
  change (pure [] >>= _) = _
  simp [run]

theorem run_piece (a : Assembly σ) (depth : Nat) (entry : PlanEntry) (rest : List PlanEntry)
    (gap : String) (m : Match) (pieces : List (String × Match)) (tail : String) :
    run a depth (.cut entry rest ((gap, m) :: pieces) tail) = (do
      let before ← run a depth (.scope rest gap)
      let here ← run a depth (.block entry m)
      let later ← run a depth (.cut entry rest pieces tail)
      return before ++ here ++ later) := by
  simp only [run, Run.gather, bind_assoc, pure_bind, List.append_assoc]

end Call

/-- An evaluation gives the fragments that the assembly gives, by the same requests. -/
theorem Evaluates.run_eq {a : Assembly σ} {limit level : Nat} {call : Call} {s t : σ}
    {values : List String} {log : List Event}
    (evaluation : Evaluates a limit level call s values log t) :
    call.run a (limit - level) s = ⟨values, requestsOf log, t⟩ := by
  induction evaluation with
  | exhausted level text s => rfl
  | passed passed _ ih => rw [Call.run_passed a _ passed, ih]
  | scanned scanned _ ih => rw [Call.run_scanned a _ scanned, ih]
  | last _ ih => rw [Call.run_last, ih]
  | piece _ _ _ first second others =>
    rw [Call.run_piece]
    simp only [Run.bind_apply, first, second, others, Run.pure_apply, requestsOf_append,
      List.append_nil, List.append_assoc]
  | stripped level matcher m s => rfl
  | kept level matcher m s => rfl
  | @atLimit level reached matcher names m s =>
    rw [Nat.sub_eq_zero_of_le reached]
    rfl
  -- Below the limit a level is left, so the assembly looks at the reference.
  | @unwanted level matcher names m below unwanted s =>
    have left : limit - level = limit - (level + 1) + 1 := by omega
    simp only [Call.run, block, left, expand_succ, unwanted]
    rfl
  | @failed level matcher names m request resolution s failure t below wanted fetched =>
    have left : limit - level = limit - (level + 1) + 1 := by omega
    simp only [Call.run, block, left, expand_succ, wanted, Run.bind_apply, fetched]
    rfl
  | @spliced level matcher names m request resolution s content t values log u below wanted fetched
      _ ih =>
    have left : limit - level = limit - (level + 1) + 1 := by omega
    simp only [Call.run] at ih
    simp only [Call.run, block, left, expand_succ, wanted, Run.bind_apply, fetched, ih,
      Run.pure_apply, List.append_nil, requestsOf_dispatched, requestsOf_opened]
    rfl

/-- An evaluation leaves the origin in the state that its requests lead to. -/
theorem Evaluates.state_eq {a : Assembly σ} {limit level : Nat} {call : Call} {s t : σ}
    {values : List String} {log : List Event}
    (evaluation : Evaluates a limit level call s values log t) :
    t = a.origin.after s (requestsOf log) := by
  induction evaluation with
  | exhausted | stripped | kept | atLimit | unwanted => rfl
  | passed _ _ ih | scanned _ _ ih | last _ ih => exact ih
  | piece _ _ _ first second others =>
    rw [requestsOf_append, requestsOf_append, Origin.after_append, Origin.after_append, ← first,
      ← second, ← others]
  | failed _ _ fetched =>
    rw [ContentReader.fetch_apply] at fetched
    exact (Outcome.mk.inj fetched).2.2.symm
  | spliced _ _ fetched _ ih =>
    rw [ContentReader.fetch_apply] at fetched
    rw [ih, ← (Outcome.mk.inj fetched).2.2]
    rfl

/-- Whether the work for a call comes to an end, from every state of the origin. -/
def Ends (a : Assembly σ) (limit level : Nat) (call : Call) : Prop :=
  ∀ s, ∃ values log t, Evaluates a limit level call s values log t

/-- A block is done with as soon as the documents one level further in are. -/
theorem ends_block (a : Assembly σ) (limit level : Nat) (entry : PlanEntry) (m : Match)
    (further : level < limit → ∀ stack text, Ends a limit (level + 1) (.scope stack text)) :
    Ends a limit level (.block entry m) := by
  intro s
  cases entry with
  | exclude matcher => exact ⟨_, _, _, .stripped level matcher m s⟩
  | keep matcher => exact ⟨_, _, _, .kept level matcher m s⟩
  | expand matcher names =>
    rcases Nat.lt_or_ge level limit with below | reached
    · cases wanted : a.wanted? matcher names m with
      | none => exact ⟨_, _, _, .unwanted below wanted s⟩
      | some next =>
        obtain ⟨request, resolution⟩ := next
        have fetched := a.reader.fetch_apply a.origin request s
        cases content : (a.origin.reply s request).1.bind a.reader.contentOf with
        | error failure =>
          rw [content] at fetched
          exact ⟨_, _, _, .failed below wanted fetched⟩
        | ok text =>
          rw [content] at fetched
          obtain ⟨values, log, t, inner⟩ := further below (stackOf resolution) text _
          exact ⟨_, _, _, .spliced below wanted fetched inner⟩
    · exact ⟨_, _, _, .atLimit reached matcher names m s⟩

/-- A cut text is done with if its matches and the texts between them are. -/
theorem ends_cut (a : Assembly σ) (limit level : Nat) (entry : PlanEntry) (rest : List PlanEntry)
    (pieces : List (String × Match)) (tail : String)
    (blocks : ∀ m, Ends a limit level (.block entry m))
    (texts : ∀ text, Ends a limit level (.scope rest text)) :
    Ends a limit level (.cut entry rest pieces tail) := by
  induction pieces with
  | nil =>
    intro s
    obtain ⟨_, _, _, inner⟩ := texts tail s
    exact ⟨_, _, _, .last inner⟩
  | cons piece pieces ih =>
    intro s
    obtain ⟨gap, m⟩ := piece
    obtain ⟨_, _, t, first⟩ := texts gap s
    obtain ⟨_, _, u, second⟩ := blocks m t
    obtain ⟨_, _, _, others⟩ := ih u
    exact ⟨_, _, _, .piece first second others⟩

/-- A text is done with if the blocks of its document are: with every cut there is an entry less. -/
theorem ends_scope (a : Assembly σ) (limit level : Nat) (stack : List PlanEntry) (text : String)
    (blocks : ∀ entry m, Ends a limit level (.block entry m)) :
    Ends a limit level (.scope stack text) := by
  induction stack generalizing text with
  | nil => exact fun s => ⟨_, _, _, .exhausted level text s⟩
  | cons entry rest ih =>
    intro s
    cases scanned : entry.needsScan with
    | false =>
      obtain ⟨_, _, _, inner⟩ := ih text s
      exact ⟨_, _, _, .passed scanned inner⟩
    | true =>
      obtain ⟨_, _, _, inner⟩ := ends_cut a limit level entry rest
        (entry.matcher.pattern.cut text).pieces (entry.matcher.pattern.cut text).tail
        (blocks entry) ih s
      exact ⟨_, _, _, .scanned scanned inner⟩

/-- Every document comes to an end: the levels that are left become fewer, and on one level the
entries of the plan. -/
theorem exists_evaluates (a : Assembly σ) (limit level : Nat) (stack : List PlanEntry)
    (text : String) : Ends a limit level (.scope stack text) := by
  induction left : limit - level using Nat.strongRecOn generalizing level stack text with
  | _ left ih =>
    refine ends_scope a limit level stack text fun entry m => ?_
    refine ends_block a limit level entry m fun below stack text => ?_
    exact ih (limit - (level + 1)) (by omega) (level + 1) stack text rfl

end Assembly

end Transclusion
