import Transclusion.Proofs.Assembly.DepthLimit
import Transclusion.Proofs.Assembly.Layout
import Transclusion.Proofs.Assembly.Provenance

/-!
# Skipping

Assembly passes over the entries that keep their blocks. So such an entry might as well not be in the
plan. Scanning for its blocks would be another matter: the entries before it would be handed the gaps
between them, and could not reach into the blocks that are kept. Thorough assembly does this, here
and in every document that is fetched. It comes to the same as long as no document of the run has its
other blocks disturbed.

## Main results

`assemble_without_kept`: entries that keep their blocks can be taken out of a plan.
`assemble_skips`: when thorough assembly gives the same text by the same requests.
`assemble_reaches_into_kept`: a block that is stripped from within one that is kept.
-/

namespace Transclusion

namespace Assembly

variable {σ : Type}

/-! ### Plans without the entries that are passed over -/

theorem fragments_filter (expansion : Expansion σ) (stack : List PlanEntry) (text : String) :
    fragments expansion (stack.filter PlanEntry.needsScan) text = fragments expansion stack text := by
  induction stack generalizing text with
  | nil => rfl
  | cons entry rest ih =>
    cases scanned : entry.needsScan with
    | false =>
      have passed : ¬ entry.needsScan = true := by simp [scanned]
      rw [List.filter_cons_of_neg passed, fragments_skip expansion scanned, ih]
    | true =>
      rw [List.filter_cons_of_pos scanned, fragments_scan expansion scanned,
        fragments_scan expansion scanned]
      simp only [ih]

/-- Entries that keep their blocks can be taken out of a plan, wherever they stand in it: the
fragments, the requests and what becomes of the origin stay the same. -/
theorem assemble_without_kept (a : Assembly σ) (depth : Nat) (plan : List PlanEntry)
    (text : String) :
    a.assemble depth (plan.filter PlanEntry.needsScan) text = a.assemble depth plan text := by
  unfold assemble
  rw [← List.filter_reverse, fragments_filter]

/-! ### Thorough assembly -/

namespace Thorough

/-- The fragments of a text if every entry is scanned for, also those that keep their blocks. -/
def fragments (expansion : Expansion σ) : List PlanEntry → String → Run σ (List String)
  | [], text => return [text]
  | entry :: rest, text => do
    let cut := entry.matcher.pattern.cut text
    let front ← Run.gather (fun (gap, m) => do
      let before ← fragments expansion rest gap
      return before ++ (← block expansion entry m)) cut.pieces
    let last ← fragments expansion rest cut.tail
    return front ++ last

/-- Replace a block by what it leads to, which is assembled thoroughly as well. -/
def expand (a : Assembly σ) : Nat → Expansion σ
  | 0, _, _, m => return m.whole
  | depth + 1, matcher, names, m =>
    match a.wanted? matcher names m with
    | none => return m.whole
    | some (request, resolution) => do
      match ← a.reader.fetch a.origin request with
      | .error failure => return a.assemblage.renderFailure m.whole failure
      | .ok content =>
        let values ← fragments (expand a depth) (stackOf resolution) content
        return a.assemblage.adjust (String.join values) (m.groups.map (·.getD ""))

def assemble (a : Assembly σ) (depth : Nat) (plan : List PlanEntry) (text : String) :
    Run σ (List String) :=
  fragments (expand a depth) plan.reverse text

/-- The segments of a document if every entry is scanned for. -/
def segments : List PlanEntry → String → List Segment
  | [], text => [.kept text]
  | entry :: rest, text =>
    let cut := entry.matcher.pattern.cut text
    cut.pieces.flatMap (fun (gap, m) => segments rest gap ++ [.ofMatch rest.length entry m]) ++
      segments rest cut.tail

theorem fragments_eq_gather (expansion : Expansion σ) (stack : List PlanEntry) (text : String) :
    fragments expansion stack text = Run.gather (Segment.run expansion) (segments stack text) := by
  induction stack generalizing text with
  | nil => exact (Run.gather_singleton _ _).symm
  | cons entry rest ih =>
    rw [fragments, segments, Run.gather_append, Run.gather_flatMap]
    simp only [Run.gather_append, Run.gather_singleton, Segment.run_ofMatch, ih]

/-- Whether scanning for every entry finds the same blocks in a document as before, with the same
text before each and after the last, apart from those that are kept. -/
def Undisturbed (stack : List PlanEntry) (text : String) : Prop :=
  Segment.layout (segments stack text) = Segment.layout (Transclusion.segments stack text)

theorem layout_of_kept {stack : List PlanEntry}
    (kept : ∀ entry ∈ stack, entry.needsScan = false) (text : String) :
    Segment.layout (segments stack text) = ⟨[], text⟩ := by
  induction stack generalizing text with
  | nil => simp [segments, Segment.layout, Layout.extend]
  | cons entry rest ih =>
    have plain := ih fun other member => kept other (List.mem_cons_of_mem _ member)
    have whole (m : Match) : Segment.layout [.ofMatch rest.length entry m] = ⟨[], m.whole⟩ := by
      cases entry with
      | keep matcher => simp [Segment.ofMatch, Segment.layout, Layout.extend]
      | exclude | expand => cases kept _ List.mem_cons_self
    have parts := entry.matcher.pattern.text_cut text
    rw [segments]
    generalize entry.matcher.pattern.cut text = cut at parts
    obtain ⟨pieces, tail⟩ := cut
    rw [← String.ofList_toList (s := text), ← parts]
    clear parts
    induction pieces with
    | nil => simp [Cut.text, plain]
    | cons piece pieces more =>
      obtain ⟨gap, m⟩ := piece
      simp only [List.flatMap_cons, List.append_assoc] at more ⊢
      rw [Segment.layout_append, Segment.layout_append, more, plain, whole]
      simp [Layout.append, Layout.extend, Cut.text]

theorem segments_of_kept {stack : List PlanEntry}
    (kept : ∀ entry ∈ stack, entry.needsScan = false) (text : String) :
    Transclusion.segments stack text = [.kept text] := by
  induction stack with
  | nil => rfl
  | cons entry rest ih =>
    rw [segments_skip (kept entry List.mem_cons_self)]
    exact ih fun other member => kept other (List.mem_cons_of_mem _ member)

/-- An entry that is scanned for disturbs nothing by itself. -/
theorem undisturbed_scan {entry : PlanEntry} (scanned : entry.needsScan = true)
    {rest : List PlanEntry} (gaps : ∀ gap, Undisturbed rest gap) (text : String) :
    Undisturbed (entry :: rest) text := by
  unfold Undisturbed at gaps ⊢
  rw [segments, segments_scan scanned]
  generalize entry.matcher.pattern.cut text = cut
  obtain ⟨pieces, tail⟩ := cut
  induction pieces with
  | nil => exact gaps tail
  | cons piece pieces more =>
    simp only [List.flatMap_cons, List.append_assoc] at more ⊢
    simp only [Segment.layout_append, gaps, more]

/-- Nothing is disturbed if the entries that keep their blocks come last, since nothing is scanned
for in the gaps that they leave. -/
theorem undisturbed_of_kept_last {stack : List PlanEntry}
    (kept : ∀ entry ∈ stack.dropWhile PlanEntry.needsScan, entry.needsScan = false)
    (text : String) : Undisturbed stack text := by
  induction stack generalizing text with
  | nil => rfl
  | cons entry rest ih =>
    cases scanned : entry.needsScan with
    | true =>
      rw [List.dropWhile_cons_of_pos scanned] at kept
      exact undisturbed_scan scanned (ih kept) text
    | false =>
      rw [List.dropWhile_cons_of_neg (by simp [scanned])] at kept
      rw [Undisturbed, layout_of_kept kept, segments_of_kept kept, Segment.layout, Segment.layout,
        Layout.extend, String.append_empty]

theorem join_of_undisturbed {stack : List PlanEntry} {text : String}
    (undisturbed : Undisturbed stack text) (expansion : Expansion σ) :
    (do return String.join (← fragments expansion stack text)) = (do
      let values ← Run.gather (Segment.run expansion) (Transclusion.segments stack text)
      return String.join values) := by
  rw [fragments_eq_gather, ← Layout.render_layout, undisturbed, Layout.render_layout]

/-- The steps for the segments of a call come to the same, whether blocks lead on to documents that
are assembled thoroughly or not, if these documents are undisturbed. -/
theorem gather_of_evaluates {a : Assembly σ} {limit level : Nat} {call : Call} {s t : σ}
    {values : List String} {log : List Event}
    (evaluation : Evaluates a limit level call s values log t)
    (undisturbed : ∀ level stack text, .opened level stack text ∈ log → Undisturbed stack text) :
    Run.gather (Segment.run (expand a (limit - level))) call.segments s =
      ⟨values, requestsOf log, t⟩ := by
  induction evaluation with
  | exhausted level text s =>
    rw [Call.segments, Transclusion.segments, Run.gather_singleton]
    rfl
  | passed passed _ ih =>
    rw [Call.segments_passed passed]
    exact ih undisturbed
  | scanned scanned _ ih =>
    rw [Call.segments_scanned scanned]
    exact ih undisturbed
  | last _ ih => exact ih undisturbed
  | @piece level entry rest gap m pieces tail s before log t here log' u later log'' v _ _ _ ihGap
      ihBlock ihOthers =>
    have front := ihGap fun level stack text member =>
      undisturbed level stack text (List.mem_append_left _ (List.mem_append_left _ member))
    have block := ihBlock fun level stack text member =>
      undisturbed level stack text (List.mem_append_left _ (List.mem_append_right _ member))
    have others := ihOthers fun level stack text member =>
      undisturbed level stack text (List.mem_append_right _ member)
    rw [Call.segments, Run.gather_singleton, Segment.run_ofMatch] at block
    rw [Call.segments_piece, Run.gather_append, Run.gather]
    simp only [Run.bind_apply, Segment.run_ofMatch, front, block, others, Run.pure_apply,
      requestsOf_append, List.append_nil, List.append_assoc]
  | stripped | kept =>
    rw [Call.segments, Run.gather_singleton]
    rfl
  | @atLimit level reached matcher names m s =>
    rw [Call.segments, Run.gather_singleton, Nat.sub_eq_zero_of_le reached]
    rfl
  | @unwanted level matcher names m below unwanted s =>
    have left : limit - level = limit - (level + 1) + 1 := by omega
    rw [Call.segments, Run.gather_singleton, Segment.run_ofMatch, block, left]
    simp only [expand, unwanted]
    rfl
  | @failed level matcher names m request resolution s failure t below wanted fetched =>
    have left : limit - level = limit - (level + 1) + 1 := by omega
    rw [Call.segments, Run.gather_singleton, Segment.run_ofMatch, block, left]
    simp only [expand, wanted, Run.bind_apply, fetched]
    rfl
  | @spliced level matcher names m request resolution s content t values log u below wanted fetched
      _ ih =>
    have left : limit - level = limit - (level + 1) + 1 := by omega
    have inner := ih fun level stack text member =>
      undisturbed level stack text (List.mem_cons_of_mem _ (List.mem_cons_of_mem _ member))
    have opened := undisturbed (level + 1) (stackOf resolution) content
      (List.mem_cons_of_mem _ List.mem_cons_self)
    have same := congrFun (join_of_undisturbed opened (expand a (limit - (level + 1)))) t
    rw [Call.segments] at inner
    simp only [Run.bind_apply, inner, Run.pure_apply, List.append_nil, Outcome.mk.injEq] at same
    obtain ⟨value, requests, state⟩ := same
    rw [Call.segments, Run.gather_singleton, Segment.run_ofMatch, block, left]
    simp only [expand, wanted, Run.bind_apply, fetched, Run.pure_apply, List.append_nil, value,
      requests, state, requestsOf_dispatched, requestsOf_opened]
    rfl

end Thorough

/-- If no document of a run is disturbed by it, neither the text nor any that is fetched for it,
then thorough assembly makes the same requests and gives the same text, though it may be divided into
fragments otherwise. Whatever a document holds, it is not disturbed if after the first entry that
keeps its blocks only such entries are left of its plan. -/
theorem assemble_skips (a : Assembly σ) (limit : Nat) (plan : List PlanEntry) (text : String)
    (s : σ) :
    (∀ stack : List PlanEntry,
      (∀ entry ∈ stack.dropWhile PlanEntry.needsScan, entry.needsScan = false) →
        ∀ content, Thorough.Undisturbed stack content) ∧
    (∃ values log t, Evaluates a limit 0 (.scope plan.reverse text) s values log t) ∧
    ∀ values log t, Evaluates a limit 0 (.scope plan.reverse text) s values log t →
      (∀ level stack content, .opened level stack content ∈ .opened 0 plan.reverse text :: log →
        Thorough.Undisturbed stack content) →
      a.assemble limit plan text s = ⟨values, requestsOf log, t⟩ ∧
      ∃ others, Thorough.assemble a limit plan text s = ⟨others, requestsOf log, t⟩ ∧
        String.join others = String.join values := by
  refine ⟨fun stack kept content => Thorough.undisturbed_of_kept_last kept content,
    exists_evaluates a limit 0 plan.reverse text s, ?_⟩
  intro values log t evaluation undisturbed
  refine ⟨evaluation.run_eq, ?_⟩
  have outer := undisturbed 0 plan.reverse text List.mem_cons_self
  have inner := Thorough.gather_of_evaluates evaluation fun level stack content member =>
    undisturbed level stack content (List.mem_cons_of_mem _ member)
  have same := congrFun (Thorough.join_of_undisturbed outer (Thorough.expand a limit)) s
  rw [Call.segments, Nat.sub_zero] at inner
  simp only [Run.bind_apply, inner, Run.pure_apply, List.append_nil, Outcome.mk.injEq] at same
  obtain ⟨value, requests, state⟩ := same
  refine ⟨(Thorough.assemble a limit plan text s).value, ?_, value⟩
  rw [← requests, ← state]
  rfl

/-- A matcher whose blocks are kept. -/
def aside : Matcher := .make (some "aside") ((Pattern.compile? "\\[[^\\]]*\\]").getD default) none []

/-- Asides stand between the links of a document and hold none. -/
theorem assemble_skips_asides :
    Thorough.Undisturbed [.keep aside, .expand link ["title"]] "[x]<one>[]" ∧
      (chained.assemble 3 [.expand link ["title"], .keep aside] "[x]<one>[]" ()).requests.map
        (·.uri) = ["one", "two", "three"] ∧
      (Thorough.assemble chained 3 [.expand link ["title"], .keep aside] "[x]<one>[]" ()).requests =
        (chained.assemble 3 [.expand link ["title"], .keep aside] "[x]<one>[]" ()).requests ∧
      String.join (Thorough.assemble chained 3 [.expand link ["title"], .keep aside] "[x]<one>[]"
        ()).value =
        String.join (chained.assemble 3 [.expand link ["title"], .keep aside] "[x]<one>[]"
          ()).value := by
  have outer : Thorough.Undisturbed [.keep aside, .expand link ["title"]] "[x]<one>[]" := by
    have asides : aside.pattern.cut "[x]<one>[]" =
        ⟨[("", ⟨"[x]", []⟩), ("<one>", ⟨"[]", []⟩)], ""⟩ := by decide +kernel
    have links : link.pattern.cut "[x]<one>[]" = ⟨[("[x]", ⟨"<one>", []⟩)], "[]"⟩ := by
      decide +kernel
    have inGap : link.pattern.cut "<one>" = ⟨[("", ⟨"<one>", []⟩)], ""⟩ := by decide +kernel
    have inNone : link.pattern.cut "" = ⟨[], ""⟩ := by decide +kernel
    simp [Thorough.Undisturbed, Thorough.segments, segments, PlanEntry.needsScan, PlanEntry.matcher,
      asides, links, inGap, inNone, Segment.ofMatch, Segment.layout, Layout.extend, Layout.cons]
  obtain ⟨keptLast, ⟨values, log, t, evaluation⟩, thorough⟩ := assemble_skips chained 3
    [.expand link ["title"], .keep aside] "[x]<one>[]" ()
  have undisturbed : ∀ level stack content,
      .opened level stack content ∈ .opened 0 [.keep aside, .expand link ["title"]] "[x]<one>[]" :: log →
        Thorough.Undisturbed stack content := by
    intro level stack content member
    rcases List.mem_cons.1 member with first | fetched
    · cases first
      exact outer
    · -- All other documents are assembled by the one matcher there is.
      obtain ⟨before, after, split⟩ := List.append_of_mem fetched
      obtain ⟨_, request, names, -, -, rfl⟩ := evaluation.brings_of_opened split
      have resolved : chained.repository.resolve chained.assemblage fetchMethod request.uri
          chained.headers names true =
            if names.isEmpty then .verbatim else .plan [.select link names] := rfl
      apply keptLast
      rw [resolved]
      split
      · exact List.forall_mem_nil _
      · generalize PlanEntry.select link names = entry
        cases scanned : entry.needsScan <;> simp [stackOf, scanned]
  obtain ⟨outcome, others, same, text⟩ := thorough values log t evaluation undisturbed
  refine ⟨outer, by decide +kernel, ?_, ?_⟩
  · rw [same, outcome]
  · rw [same, outcome, text]

/-- What is stripped or fetched within a block that is kept would be left alone if the block were
scanned for. -/
theorem assemble_reaches_into_kept :
    String.join (chained.assemble 8 [.exclude link, .keep aside] "a[<b>]" ()).value = "a[]" ∧
    String.join (Thorough.assemble chained 8 [.exclude link, .keep aside] "a[<b>]" ()).value =
      "a[<b>]" ∧
    (chained.assemble 8 [.expand link ["title"], .keep aside] "a[<two>]" ()).requests.map (·.uri) =
      ["two", "three"] ∧
    (Thorough.assemble chained 8 [.expand link ["title"], .keep aside] "a[<two>]" ()).requests =
      [] := by
  decide +kernel

end Assembly

end Transclusion
