import Transclusion.Proofs.Assembly.Provenance

/-!
# The limit on nested references

The limit cuts an assembly off and changes nothing else. An evaluation with a deeper limit contains
the one with a limit that is less deep: leave out what happens for blocks of documents at that limit
or beyond, and what is left happens in the same order. Where no block waits at the limit, there is
nothing to leave out.

## Main results

`assemble_cut_at_depth`: the requests that a limit leaves, and when it has no effect.
-/

namespace Transclusion.Assembly

variable {σ : Type} {a : Assembly σ} {limit deeper level : Nat} {call : Call} {s t : σ}
  {values : List String} {log : List Event}

/-- Whether an event happens for a block of a document that lies less than `limit` references deep. -/
def Event.isWithin (limit : Nat) : Event → Bool
  | dispatched level _ => level < limit
  | opened level _ _ => level ≤ limit

theorem Event.isWithin_mono {event : Event} (le : limit ≤ deeper)
    (within : event.isWithin limit = true) : event.isWithin deeper = true := by
  cases event with
  | dispatched level request =>
    have below : level < limit := of_decide_eq_true within
    exact decide_eq_true (Nat.lt_of_lt_of_le below le)
  | opened level stack text =>
    have below : level ≤ limit := of_decide_eq_true within
    exact decide_eq_true (Nat.le_trans below le)

/-- Whatever happens in the work for a call happens for blocks of its document or deeper ones. -/
theorem Evaluates.isWithin_eq_false (evaluation : Evaluates a limit level call s values log t)
    {event : Event} (member : event ∈ log) : event.isWithin level = false := by
  induction evaluation with
  | exhausted | stripped | kept | atLimit | unwanted => cases member
  | passed _ _ ih | scanned _ _ ih | last _ ih => exact ih member
  | piece _ _ _ first second others =>
    rcases List.mem_append.1 member with earlier | later
    · rcases List.mem_append.1 earlier with inside | inside
      · exact first inside
      · exact second inside
    · exact others later
  | @failed level _ _ _ _ _ _ _ _ _ _ _ =>
    obtain rfl := List.mem_singleton.1 member
    exact decide_eq_false (Nat.lt_irrefl level)
  | @spliced level _ _ _ _ _ _ _ _ _ _ _ _ _ _ _ ih =>
    rcases List.mem_cons.1 member with rfl | further
    · exact decide_eq_false (Nat.lt_irrefl level)
    · rcases List.mem_cons.1 further with rfl | inside
      · exact decide_eq_false (Nat.not_succ_le_self level)
      · have beyond := ih inside
        rw [Bool.eq_false_iff] at beyond ⊢
        exact fun within => beyond (Event.isWithin_mono (Nat.le_succ level) within)

theorem Evaluates.filter_eq_nil (evaluation : Evaluates a deeper level call s values log t)
    (beyond : limit ≤ level) : log.filter (Event.isWithin limit) = [] := by
  rw [List.filter_eq_nil_iff]
  intro event member within
  have outside := evaluation.isWithin_eq_false member
  rw [Event.isWithin_mono beyond within] at outside
  cases outside

/-- What is fetched from an origin without memory does not depend on the state. -/
theorem fetch_of_isStateless (stateless : a.origin.IsStateless) {request : Request}
    {content : Except FetchFailure String}
    (fetched : a.reader.fetch a.origin request s = ⟨content, [request], t⟩) (s' : σ) :
    a.reader.fetch a.origin request s' =
      ⟨content, [request], (a.origin.reply s' request).2⟩ := by
  rw [ContentReader.fetch_apply] at fetched ⊢
  rw [stateless s' s request, (Outcome.mk.inj fetched).1]

/-- Against an origin without memory, less deep a limit leaves of an evaluation what happens for
blocks of documents within it. -/
theorem Evaluates.cut (evaluation : Evaluates a deeper level call s values log t)
    (stateless : a.origin.IsStateless) (le : limit ≤ deeper) (s' : σ) :
    ∃ values' t',
      Evaluates a limit level call s' values' (log.filter (Event.isWithin limit)) t' := by
  induction evaluation generalizing s' with
  | exhausted level text s => exact ⟨_, _, .exhausted level text s'⟩
  | stripped level matcher m s => exact ⟨_, _, .stripped level matcher m s'⟩
  | kept level matcher m s => exact ⟨_, _, .kept level matcher m s'⟩
  | passed passed _ ih =>
    obtain ⟨_, _, inner⟩ := ih s'
    exact ⟨_, _, .passed passed inner⟩
  | scanned scanned _ ih =>
    obtain ⟨_, _, inner⟩ := ih s'
    exact ⟨_, _, .scanned scanned inner⟩
  | last _ ih =>
    obtain ⟨_, _, inner⟩ := ih s'
    exact ⟨_, _, .last inner⟩
  | piece _ _ _ first second others =>
    obtain ⟨_, t', first⟩ := first s'
    obtain ⟨_, u', second⟩ := second t'
    obtain ⟨_, _, others⟩ := others u'
    rw [List.filter_append, List.filter_append]
    exact ⟨_, _, .piece first second others⟩
  | atLimit reached matcher names m s =>
    exact ⟨_, _, .atLimit (Nat.le_trans le reached) matcher names m s'⟩
  | @unwanted level matcher names m below unwanted s =>
    rcases Nat.lt_or_ge level limit with inside | reached
    · exact ⟨_, _, .unwanted inside unwanted s'⟩
    · exact ⟨_, _, .atLimit reached matcher names m s'⟩
  | @failed level matcher names m request _ s failure t below wanted fetched =>
    rcases Nat.lt_or_ge level limit with inside | reached
    · have made : (Event.dispatched level request).isWithin limit = true := decide_eq_true inside
      rw [List.filter_cons_of_pos made]
      exact ⟨_, _, .failed inside wanted (fetch_of_isStateless stateless fetched s')⟩
    -- Nothing of the work for a block at the limit is left, and the block is kept.
    · rw [(Evaluates.failed below wanted fetched).filter_eq_nil reached]
      exact ⟨_, _, .atLimit reached matcher names m s'⟩
  | @spliced level matcher names m request resolution s content t values log u below wanted fetched
      inner ih =>
    rcases Nat.lt_or_ge level limit with inside | reached
    · obtain ⟨_, _, inner⟩ := ih (a.origin.reply s' request).2
      have made : (Event.dispatched level request).isWithin limit = true := decide_eq_true inside
      have opened : (Event.opened (level + 1) (stackOf resolution) content).isWithin limit = true :=
        decide_eq_true inside
      rw [List.filter_cons_of_pos made, List.filter_cons_of_pos opened]
      exact ⟨_, _, .spliced inside wanted (fetch_of_isStateless stateless fetched s') inner⟩
    · rw [(Evaluates.spliced below wanted fetched inner).filter_eq_nil reached]
      exact ⟨_, _, .atLimit reached matcher names m s'⟩

/-- Whether no block is kept because of the limit: the documents that lie at the limit, from which
no reference is followed, have no block that would lead to a request. -/
def Uncut (a : Assembly σ) (limit : Nat) (log : List Event) : Prop :=
  ∀ stack text, .opened limit stack text ∈ log → ∀ request,
    ¬ (Call.scope stack text).Leads a request

theorem Uncut.subset {more : List Event} (uncut : a.Uncut limit more)
    (subset : ∀ event ∈ log, event ∈ more) : a.Uncut limit log :=
  fun stack text opened => uncut stack text (subset _ opened)

/-- An evaluation in which no block is kept because of the limit is one with every deeper limit. -/
theorem Evaluates.extend (evaluation : Evaluates a limit level call s values log t)
    (uncut : a.Uncut limit log) (inside : level ≤ limit)
    (idle : level = limit → ∀ request, ¬ call.Leads a request) (le : limit ≤ deeper) :
    Evaluates a deeper level call s values log t := by
  induction evaluation with
  | exhausted level text s => exact .exhausted level text s
  | stripped level matcher m s => exact .stripped level matcher m s
  | kept level matcher m s => exact .kept level matcher m s
  | passed passed _ ih =>
    refine .passed passed (ih uncut inside fun same request leads => idle same request ?_)
    exact leads.mono fun seg member => by rwa [Call.segments_passed passed]
  | scanned scanned _ ih =>
    refine .scanned scanned (ih uncut inside fun same request leads => idle same request ?_)
    exact leads.mono fun seg member => by rwa [Call.segments_scanned scanned]
  | last _ ih => exact .last (ih uncut inside idle)
  | @piece level entry rest gap m pieces tail _ _ _ _ _ _ _ _ _ _ _ _ _ ihGap ihBlock ihOthers =>
    refine .piece (ihGap (uncut.subset fun event member => ?_) inside ?_)
      (ihBlock (uncut.subset fun event member => ?_) inside ?_)
      (ihOthers (uncut.subset fun event member => ?_) inside ?_)
    · exact List.mem_append_left _ (List.mem_append_left _ member)
    · refine fun same request leads => idle same request (leads.mono fun seg member => ?_)
      rw [Call.segments_piece]
      exact List.mem_append_left _ member
    · exact List.mem_append_left _ (List.mem_append_right _ member)
    · exact fun same request leads => idle same request (leads.of_block rest gap pieces tail)
    · exact List.mem_append_right _ member
    · refine fun same request leads => idle same request (leads.mono fun seg member => ?_)
      rw [Call.segments_piece]
      exact List.mem_append_right _ (List.mem_cons_of_mem _ member)
  | @atLimit level reached matcher names m s =>
    rcases Nat.lt_or_ge level deeper with below | reached'
    · refine .unwanted below ?_ s
      -- The limit is reached, so the block leads nowhere.
      cases wanted : a.wanted? matcher names m with
      | none => rfl
      | some next =>
        obtain ⟨request, resolution⟩ := next
        exact absurd ⟨0, matcher, names, m, resolution, List.mem_cons_self, wanted⟩
          (idle (Nat.le_antisymm inside reached) request)
    · exact .atLimit reached' matcher names m s
  | unwanted below unwanted s => exact .unwanted (Nat.lt_of_lt_of_le below le) unwanted s
  | failed below wanted fetched => exact .failed (Nat.lt_of_lt_of_le below le) wanted fetched
  | @spliced level _ _ _ _ resolution _ content _ _ _ _ below wanted fetched _ ih =>
    refine .spliced (Nat.lt_of_lt_of_le below le) wanted fetched
      (ih (uncut.subset fun event member => ?_) below ?_)
    · exact List.mem_cons_of_mem _ (List.mem_cons_of_mem _ member)
    · rintro rfl
      exact uncut _ _ (List.mem_cons_of_mem _ List.mem_cons_self)

/-- Of two limits the deeper one adds requests and takes none away. Against an origin without memory
the requests that `limit` leaves are those that `deeper` makes for blocks of documents less than
`limit` references deep, in the same order. If no block is kept because of `limit`, then the
fragments and the requests are the same. -/
theorem assemble_cut_at_depth (a : Assembly σ) (stateless : a.origin.IsStateless)
    {limit deeper : Nat} (le : limit ≤ deeper) (plan : List PlanEntry) (text : String) (s : σ) :
    (∀ depth, ∃ values log t, Evaluates a depth 0 (.scope plan.reverse text) s values log t) ∧
    (∀ values log t, Evaluates a deeper 0 (.scope plan.reverse text) s values log t →
      a.assemble deeper plan text s = ⟨values, requestsOf log, t⟩ ∧
      (a.assemble limit plan text s).requests = requestsOf (log.filter (Event.isWithin limit)) ∧
      (a.assemble limit plan text s).requests.Sublist (a.assemble deeper plan text s).requests) ∧
    ∀ values log t, Evaluates a limit 0 (.scope plan.reverse text) s values log t →
      a.Uncut limit (.opened 0 plan.reverse text :: log) →
      a.assemble limit plan text s = ⟨values, requestsOf log, t⟩ ∧
      a.assemble deeper plan text s = a.assemble limit plan text s := by
  have outcome {depth : Nat} {values : List String} {log : List Event} {t : σ}
      (evaluation : Evaluates a depth 0 (.scope plan.reverse text) s values log t) :
      a.assemble depth plan text s = ⟨values, requestsOf log, t⟩ := evaluation.run_eq
  refine ⟨fun depth => exists_evaluates a depth 0 plan.reverse text s, ?_, ?_⟩
  · intro values log t evaluation
    obtain ⟨values', t', cut⟩ := evaluation.cut stateless le s
    rw [outcome evaluation, outcome cut]
    exact ⟨rfl, rfl, List.filter_sublist.filterMap _⟩
  · intro values log t evaluation uncut
    have idle : 0 = limit → ∀ request, ¬ (Call.scope plan.reverse text).Leads a request := by
      rintro rfl
      exact uncut _ _ List.mem_cons_self
    have inner : a.Uncut limit log :=
      uncut.subset fun event member => List.mem_cons_of_mem _ member
    have extended := evaluation.extend inner (Nat.zero_le limit) idle le
    rw [outcome evaluation, outcome extended]
    exact ⟨rfl, rfl⟩

/-- A matcher whose blocks refer to a page. -/
def link : Matcher :=
  .make none ((Pattern.compile? "<[a-z]+>").getD default) (Pattern.compile? "([a-z]+)") []

/-- Three pages, of which the first refers to the second and the second to the third. -/
def chained : Assembly Unit where
  assemblage := .make "page"
  repository := ⟨fun _ _ _ _ => some [link], fun _ => none⟩
  reader := ⟨64, "UTF-8"⟩
  origin := .stateless fun r =>
    let text := if r.uri = "one" then "<two>" else if r.uri = "two" then "<three>" else "end"
    .ok (.ok "text/html" (Utf8.encode text.toList))
  scheme := "http"
  headers := .empty

/-- Of three requests the first two are made for blocks that lie less than two references deep. -/
theorem assemble_cut_at_two_of_three :
    (chained.assemble 2 [.expand link ["title"]] "<one>" ()).requests.map (·.uri) =
      ["one", "two"] ∧
    (chained.assemble 3 [.expand link ["title"]] "<one>" ()).requests.map (·.uri) =
      ["one", "two", "three"] ∧
    ∃ log,
      (chained.assemble 3 [.expand link ["title"]] "<one>" ()).requests = requestsOf log ∧
      (chained.assemble 2 [.expand link ["title"]] "<one>" ()).requests =
        requestsOf (log.filter (Event.isWithin 2)) := by
  obtain ⟨evaluated, cut, -⟩ := assemble_cut_at_depth chained (Origin.isStateless_stateless _)
    (show 2 ≤ 3 by decide) [.expand link ["title"]] "<one>" ()
  obtain ⟨values, log, t, evaluation⟩ := evaluated 3
  obtain ⟨outcome, left, -⟩ := cut values log t evaluation
  exact ⟨by decide +kernel, by decide +kernel, log, congrArg Outcome.requests outcome, left⟩

end Transclusion.Assembly
