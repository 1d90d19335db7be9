import Transclusion.Proofs.Assembly.Evaluation
import Transclusion.Proofs.Assembly.Segmentation

/-!
# Identity

Assembly that finds nothing to put in place of a block leaves the block where it is, with a failure
written into it at most. So a document comes out as it went in unless something is stripped from it,
something is fetched for it, or the rules say how a failure shows.

## Main results

`assemble_eq_of_failing`: if no block is stripped, every fetch fails and no failure shows, assembly
gives the text back.
-/

namespace Transclusion

variable {σ : Type}

namespace Assemblage

theorem fillSlot_of_unbound {a : Assemblage} {slot : String} (unbound : a.slot? slot = none)
    (value block : String) : a.fillSlot slot value block = block := by
  simp only [fillSlot, unbound]

/-- Without slots for the status and the text, no failure shows in a block. -/
theorem renderFailure_of_unbound {a : Assemblage} (status : a.slot? "ERROR_STATUS" = none)
    (text : a.slot? "ERROR_TEXT" = none) (block : String) (failure : FetchFailure) :
    a.renderFailure block failure = block := by
  rw [renderFailure_eq, fillSlot_of_unbound status, fillSlot_of_unbound text]

end Assemblage

namespace Segment

/-- Whether a segment is a block that is stripped. -/
def isDropped : Segment → Bool
  | dropped .. => true
  | _ => false

theorem isDropped_ofMatch (place : Nat) (entry : PlanEntry) (m : Match) :
    (ofMatch place entry m).isDropped = !entry.isInclude := by
  cases entry <;> rfl

end Segment

/-- Entries that strip nothing leave no segment that is stripped. -/
theorem isDropped_of_mem_segments {entries : List PlanEntry}
    (included : ∀ entry ∈ entries, entry.isInclude = true) {text : String} {seg : Segment}
    (member : seg ∈ segments entries text) : seg.isDropped = false := by
  have planned := ofPlan_of_mem_segments member
  cases seg with
  | kept text => rfl
  | replaced place matcher names m => rfl
  | dropped place matcher m =>
    have stripping := included _ (List.mem_reverse.1 (List.mem_of_getElem? planned))
    cases stripping

namespace Assembly

/-- Whether nothing is fetched by requests that are made from a state `s` on. -/
def Failing (a : Assembly σ) (s : σ) (requests : List Request) : Prop :=
  ∀ reply ∈ a.origin.replies s requests, (reply.bind a.reader.contentOf).isOk = false

theorem Failing.of_append {a : Assembly σ} {s : σ} {requests more : List Request}
    (failing : a.Failing s (requests ++ more)) :
    a.Failing s requests ∧ a.Failing (a.origin.after s requests) more := by
  rw [Failing, Origin.replies_append] at failing
  exact ⟨fun reply member => failing reply (List.mem_append_left _ member),
    fun reply member => failing reply (List.mem_append_right _ member)⟩

/-- Whether no failure of these requests shows: there are none, or no slot takes it. -/
def Unmarked (a : Assembly σ) (requests : List Request) : Prop :=
  requests = [] ∨
    a.assemblage.slot? "ERROR_STATUS" = none ∧ a.assemblage.slot? "ERROR_TEXT" = none

theorem Unmarked.of_append {a : Assembly σ} {requests more : List Request}
    (unmarked : a.Unmarked (requests ++ more)) : a.Unmarked requests ∧ a.Unmarked more := by
  rcases unmarked with silent | unbound
  · obtain ⟨first, second⟩ := List.append_eq_nil_iff.1 silent
    exact ⟨.inl first, .inl second⟩
  · exact ⟨.inr unbound, .inr unbound⟩

/-- Work that strips nothing, fetches nothing and shows no failure gives the text it works off. -/
theorem Evaluates.join_eq {a : Assembly σ} {limit level : Nat} {call : Call} {s t : σ}
    {values : List String} {log : List Event}
    (evaluation : Evaluates a limit level call s values log t)
    (included : ∀ seg ∈ call.segments, seg.isDropped = false)
    (failing : a.Failing s (requestsOf log)) (unmarked : a.Unmarked (requestsOf log)) :
    String.join values = Segment.textOf call.segments := by
  induction evaluation with
  | exhausted => rfl
  | passed passed _ ih =>
    rw [Call.segments_passed passed] at included ⊢
    exact ih included failing unmarked
  | scanned scanned _ ih =>
    rw [Call.segments_scanned scanned] at included ⊢
    exact ih included failing unmarked
  | last _ ih => exact ih included failing unmarked
  | @piece level entry rest gap m pieces tail s before log t here log' u later log'' v first second
      _ ihGap ihBlock ihOthers =>
    rw [Call.segments_piece] at included ⊢
    rw [requestsOf_append, requestsOf_append] at failing unmarked
    obtain ⟨unmarked, unmarkedOthers⟩ := unmarked.of_append
    obtain ⟨unmarkedGap, unmarkedBlock⟩ := unmarked.of_append
    obtain ⟨failing, failingOthers⟩ := failing.of_append
    obtain ⟨failingGap, failingBlock⟩ := failing.of_append
    rw [Origin.after_append, ← first.state_eq, ← second.state_eq] at failingOthers
    rw [← first.state_eq] at failingBlock
    have block : ∀ seg ∈ (Call.block entry m).segments, seg.isDropped = false := by
      intro seg member
      rw [List.mem_singleton.1 member, Segment.isDropped_ofMatch,
        ← Segment.isDropped_ofMatch rest.length entry m]
      exact included _ (List.mem_append_right _ List.mem_cons_self)
    rw [String.join_append, String.join_append,
      ihGap (fun seg member => included seg (List.mem_append_left _ member)) failingGap unmarkedGap,
      ihBlock block failingBlock unmarkedBlock,
      ihOthers (fun seg member => included seg
        (List.mem_append_right _ (List.mem_cons_of_mem _ member))) failingOthers unmarkedOthers]
    simp only [Segment.textOf_append, Segment.textOf_cons, Call.segments, Segment.text_ofMatch,
      Segment.textOf_nil, String.append_empty, String.append_assoc]
  | stripped level matcher m s => cases included _ List.mem_cons_self
  | kept | atLimit | unwanted => rfl
  | failed =>
    rcases unmarked with silent | ⟨status, text⟩
    · cases silent
    · rw [Assemblage.renderFailure_of_unbound status text]
      rfl
  | @spliced level matcher names m request resolution s content t values log u _ _ fetched =>
    rw [ContentReader.fetch_apply] at fetched
    have failed := failing _ List.mem_cons_self
    rw [(Outcome.mk.inj fetched).1] at failed
    cases failed

/-- If a plan strips nothing, and every fetch of the assembly fails without a slot that the failure
shows in, or none is made, then the fragments are the text. -/
theorem assemble_eq_of_failing (a : Assembly σ) (limit : Nat) (plan : List PlanEntry)
    (text : String) (s : σ) (included : ∀ entry ∈ plan, entry.isInclude = true)
    (failing : ∀ reply ∈ a.origin.replies s (a.assemble limit plan text s).requests,
      (reply.bind a.reader.contentOf).isOk = false)
    (unmarked : (a.assemble limit plan text s).requests = [] ∨
      a.assemblage.slot? "ERROR_STATUS" = none ∧
        a.assemblage.slot? "ERROR_TEXT" = none) :
    String.join (a.assemble limit plan text s).value = text := by
  obtain ⟨values, log, t, evaluation⟩ := exists_evaluates a limit 0 plan.reverse text s
  have outcome : a.assemble limit plan text s = ⟨values, requestsOf log, t⟩ := evaluation.run_eq
  rw [outcome] at failing unmarked ⊢
  have kept : ∀ seg ∈ segments plan.reverse text, seg.isDropped = false := fun seg =>
    isDropped_of_mem_segments fun entry member => included entry (List.mem_reverse.1 member)
  calc String.join values = Segment.textOf (segments plan.reverse text) :=
        evaluation.join_eq kept failing unmarked
    _ = text := text_segments plan.reverse text

/-- An assembly against an origin that has no page. -/
def lost : Assembly Unit where
  assemblage := .make "page"
  repository := ⟨fun _ _ _ _ => some [.make none default none []], fun _ => none⟩
  reader := ⟨64, "UTF-8"⟩
  origin := .stateless fun _ => .ok (.make 404)
  scheme := "http"
  headers := .empty

/-- A matcher whose blocks refer to a page. -/
def frame : Matcher :=
  .make (some "frame") ((Pattern.compile? "<[a-z]+>").getD default) (Pattern.compile? "([a-z]+)") []

/-- Two pages are asked for in vain. -/
theorem assemble_eq_of_two_failing :
    (lost.assemble 8 [.keep frame, .expand frame []] "a<b>c<d>" ()).requests.length = 2 ∧
      String.join (lost.assemble 8 [.keep frame, .expand frame []] "a<b>c<d>" ()).value =
        "a<b>c<d>" := by
  refine ⟨by decide +kernel, assemble_eq_of_failing lost 8 _ _ () (by decide +kernel)
    (by decide +kernel) (.inr (by decide +kernel))⟩

end Assembly

end Transclusion
