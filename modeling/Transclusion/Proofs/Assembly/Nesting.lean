import Mathlib.Algebra.Ring.GeomSum
import Transclusion.Proofs.Assembly.Evaluation

/-!
# Nesting

Every request of an assembly is made for a block of some document, and the document lies fewer
references deep than the limit. A document therefore accounts for the requests of its blocks and of
the documents they lead to, and these are bounded by a geometric sum in the number of blocks that
one document has.

## Main results

`assemble_ends_within`: an assembly ends, no reference is followed at the limit, and the requests
are bounded by the number of blocks in one document.
-/

namespace Transclusion.Assembly

open Finset (range)

variable {σ : Type}

/-- How many blocks of a document are handed on to be replaced. -/
def blockCount (stack : List PlanEntry) (text : String) : Nat :=
  (segments stack text).countP Segment.isReplaced

namespace Call

/-- How many blocks a call hands on to be replaced. -/
def blockCount (call : Call) : Nat := call.segments.countP Segment.isReplaced

theorem blockCount_passed {entry : PlanEntry} (passed : entry.needsScan = false)
    (rest : List PlanEntry) (text : String) :
    blockCount (.scope (entry :: rest) text) = blockCount (.scope rest text) := by
  rw [blockCount, segments_passed passed, blockCount]

theorem blockCount_scanned {entry : PlanEntry} (scanned : entry.needsScan = true)
    (rest : List PlanEntry) (text : String) :
    blockCount (.scope (entry :: rest) text) =
      blockCount (.cut entry rest (entry.matcher.pattern.cut text).pieces
        (entry.matcher.pattern.cut text).tail) := by
  rw [blockCount, segments_scanned scanned, blockCount]

theorem blockCount_piece (entry : PlanEntry) (rest : List PlanEntry) (gap : String) (m : Match)
    (pieces : List (String × Match)) (tail : String) :
    blockCount (.cut entry rest ((gap, m) :: pieces) tail) =
      blockCount (.scope rest gap) + blockCount (.block entry m) +
        blockCount (.cut entry rest pieces tail) := by
  have block : blockCount (.block entry m) =
      if (Segment.ofMatch rest.length entry m).isReplaced then 1 else 0 := by
    cases entry <;> rfl
  rw [block]
  simp only [blockCount, segments_piece, List.countP_append, List.countP_cons]
  omega

theorem blockCount_expand (matcher : Matcher) (names : List String) (m : Match) :
    blockCount (.block (.expand matcher names) m) = 1 := rfl

end Call

/-- No reference is followed from a document at the limit. -/
theorem Evaluates.level_lt {a : Assembly σ} {limit level : Nat} {call : Call} {s t : σ}
    {values : List String} {log : List Event}
    (evaluation : Evaluates a limit level call s values log t) {deep : Nat} {request : Request}
    (dispatched : .dispatched deep request ∈ log) : deep < limit := by
  induction evaluation with
  | exhausted | stripped | kept | atLimit | unwanted => cases dispatched
  | passed _ _ ih | scanned _ _ ih | last _ ih => exact ih dispatched
  | piece _ _ _ first second others =>
    rcases List.mem_append.1 dispatched with earlier | later
    · rcases List.mem_append.1 earlier with inside | inside
      · exact first inside
      · exact second inside
    · exact others later
  | failed below _ _ =>
    cases List.mem_singleton.1 dispatched
    exact below
  | spliced below _ _ _ ih =>
    rcases List.mem_cons.1 dispatched with here | further
    · cases here
      exact below
    · rcases List.mem_cons.1 further with absurd | inside
      · cases absurd
      · exact ih inside

/-- A call makes at most as many requests as its blocks stand for, if no document that it leads to
has more than `most` blocks. -/
theorem Evaluates.length_requests_le {a : Assembly σ} {limit level : Nat} {call : Call} {s t : σ}
    {values : List String} {log : List Event}
    (evaluation : Evaluates a limit level call s values log t) {most : Nat}
    (fits : ∀ deep stack text, .opened deep stack text ∈ log → blockCount stack text ≤ most) :
    (requestsOf log).length ≤ call.blockCount * ∑ i ∈ range (limit - level), most ^ i := by
  induction evaluation with
  | exhausted | stripped | kept | atLimit | unwanted => exact Nat.zero_le _
  | passed passed _ ih =>
    rw [Call.blockCount_passed passed]
    exact ih fits
  | scanned scanned _ ih =>
    rw [Call.blockCount_scanned scanned]
    exact ih fits
  | last _ ih => exact ih fits
  | piece _ _ _ first second others =>
    have atFirst := first fun deep stack text opened =>
      fits deep stack text (List.mem_append_left _ (List.mem_append_left _ opened))
    have atSecond := second fun deep stack text opened =>
      fits deep stack text (List.mem_append_left _ (List.mem_append_right _ opened))
    have atOthers := others fun deep stack text opened =>
      fits deep stack text (List.mem_append_right _ opened)
    rw [Call.blockCount_piece, requestsOf_append, requestsOf_append, List.length_append,
      List.length_append, Nat.add_mul, Nat.add_mul]
    omega
  | @failed level _ _ _ _ _ _ _ _ below _ _ =>
    have left : limit - level = limit - (level + 1) + 1 := by omega
    rw [Call.blockCount_expand, left, geom_sum_succ, requestsOf_dispatched, requestsOf_nil,
      List.length_singleton]
    omega
  | @spliced level _ _ _ _ resolution _ content _ _ _ _ below _ _ _ ih =>
    have left : limit - level = limit - (level + 1) + 1 := by omega
    have inner := ih fun deep stack text opened =>
      fits deep stack text (List.mem_cons_of_mem _ (List.mem_cons_of_mem _ opened))
    have document : blockCount (stackOf resolution) content ≤ most :=
      fits _ _ _ (List.mem_cons_of_mem _ List.mem_cons_self)
    -- The document is counted with its own blocks, of which there are at most `most`.
    have bounded := inner.trans (Nat.mul_le_mul_right _ document)
    rw [Call.blockCount_expand, left, geom_sum_succ, requestsOf_dispatched, requestsOf_opened,
      List.length_cons]
    omega

/-- An assembly comes to an end, whatever the origin says and however resources refer to each other.
It never makes a request for a block of a document that lies as deep as the limit or deeper. If no
document of the run, the outermost included, has more than `most` blocks that are handed on to be
replaced, then the requests are at most `most + most ^ 2 + ... + most ^ limit`. -/
theorem assemble_ends_within (a : Assembly σ) (limit : Nat) (plan : List PlanEntry) (text : String)
    (s : σ) :
    (∃ values log t, Evaluates a limit 0 (.scope plan.reverse text) s values log t) ∧
    ∀ values log t, Evaluates a limit 0 (.scope plan.reverse text) s values log t →
      a.assemble limit plan text s = ⟨values, requestsOf log, t⟩ ∧
      (∀ level request, .dispatched level request ∈ log → level < limit) ∧
      ∀ most : Nat,
        (∀ level stack document,
          .opened level stack document ∈ Event.opened 0 plan.reverse text :: log →
            blockCount stack document ≤ most) →
        (requestsOf log).length ≤ ∑ i ∈ range limit, most ^ (i + 1) := by
  refine ⟨exists_evaluates a limit 0 plan.reverse text s, ?_⟩
  intro values log t evaluation
  refine ⟨evaluation.run_eq, fun level request => evaluation.level_lt, ?_⟩
  intro most fits
  have outermost : Call.blockCount (.scope plan.reverse text) ≤ most :=
    fits 0 plan.reverse text List.mem_cons_self
  have further := evaluation.length_requests_le fun level stack document opened =>
    fits level stack document (List.mem_cons_of_mem _ opened)
  calc (requestsOf log).length
      ≤ Call.blockCount (.scope plan.reverse text) * ∑ i ∈ range limit, most ^ i := further
    _ ≤ most * ∑ i ∈ range limit, most ^ i := Nat.mul_le_mul_right _ outermost
    _ = ∑ i ∈ range limit, most ^ (i + 1) := by
      simp only [Finset.mul_sum, Nat.pow_succ']

/-- The bound is reached by a page with two blocks that both refer to the page. -/
example :
    let matcher : Matcher :=
      .make none ((Pattern.compile? "<[a-z]+>").getD default) (Pattern.compile? "<([a-z]+)>") []
    let page := Response.ok "text/html" (Utf8.encode "<page><page>".toList)
    let a : Assembly Unit :=
      { assemblage := .make "page"
        repository := ⟨fun _ _ _ _ => some [matcher], fun _ => none⟩
        reader := ⟨100, "UTF-8"⟩
        origin := .stateless fun _ => .ok page
        scheme := "http"
        headers := .empty }
    (a.assemble 2 [.expand matcher ["title"]] "<page><page>" ()).requests.length = 2 + 2 ^ 2 := by
  decide +kernel

end Transclusion.Assembly
