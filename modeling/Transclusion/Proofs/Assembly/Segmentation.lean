import Transclusion.Proofs.Assembly.Segment
import Transclusion.Proofs.Pattern.Range

/-!
# Segmentation

Which segments a document has, said without the recursion that finds them. The entries of a plan
share the document: the last one that needs scanning cuts the whole of it, and an earlier one cuts
each gap that the later ones leave. So the blocks of an entry can be read off the list of segments:
split it at the blocks of all later entries; in each stretch, the blocks of the entry and the texts
between them are the cut that its pattern makes in the text of the stretch.

## Main results

`assemble_in_document_order`: assembly works off such a list of segments from left to right.
-/

namespace Transclusion

namespace Cut

/-- Put text in front. -/
def extend (text : String) (c : Cut) : Cut :=
  match c.pieces with
  | [] => ⟨[], text ++ c.tail⟩
  | (gap, m) :: pieces => ⟨(text ++ gap, m) :: pieces, c.tail⟩

theorem extend_empty (c : Cut) : c.extend "" = c := by
  obtain ⟨pieces, tail⟩ := c
  cases pieces <;> simp [extend]

theorem extend_extend (a b : String) (c : Cut) : (c.extend b).extend a = c.extend (a ++ b) := by
  obtain ⟨pieces, tail⟩ := c
  cases pieces <;> simp [extend, String.append_assoc]

end Cut

/-- The entries that a document is searched for: their blocks are stripped or replaced. -/
inductive PlanEntry.Scans : PlanEntry → Prop
  | exclude (matcher : Matcher) : Scans (.exclude matcher)
  | expand (matcher : Matcher) (names : List String) : Scans (.expand matcher names)

theorem PlanEntry.needsScan_iff {entry : PlanEntry} : entry.needsScan = true ↔ entry.Scans := by
  constructor
  · intro scanned
    cases entry with
    | exclude matcher => exact .exclude matcher
    | keep => cases scanned
    | expand matcher names => exact .expand matcher names
  · intro scans
    cases scans <;> rfl

namespace Segment

/-- Whether the entry of a block, if it is one, stands at its place in a plan. -/
def OfPlan (plan : List PlanEntry) : Segment → Prop
  | kept _ => True
  | dropped place matcher _ => plan[place]? = some (.exclude matcher)
  | replaced place matcher names _ => plan[place]? = some (.expand matcher names)

/-- The gaps that the later entries leave to the entry at a place. -/
def gaps (place : Nat) (segs : List Segment) : List (List Segment) :=
  segs.splitOnP (isAfter place)

/-- The cut that the blocks of the entry at a place make in a list of segments. -/
def cutAt (place : Nat) : List Segment → Cut
  | [] => ⟨[], ""⟩
  | seg :: segs =>
    match seg.blockOf? place with
    | some m => (cutAt place segs).cons "" m
    | none => (cutAt place segs).extend seg.text

theorem OfPlan.append {seg : Segment} {plan : List PlanEntry} (inside : seg.OfPlan plan)
    (more : List PlanEntry) : seg.OfPlan (plan ++ more) := by
  cases seg with
  | kept text => trivial
  | dropped place matcher m =>
    exact (List.getElem?_append_left (List.getElem?_eq_some_iff.1 inside).1).trans inside
  | replaced place matcher names m =>
    exact (List.getElem?_append_left (List.getElem?_eq_some_iff.1 inside).1).trans inside

theorem cutAt_append {place : Nat} {xs : List Segment}
    (others : ∀ seg ∈ xs, seg.blockOf? place = none) (ys : List Segment) :
    cutAt place (xs ++ ys) = (cutAt place ys).extend (textOf xs) := by
  induction xs with
  | nil => exact (Cut.extend_empty _).symm
  | cons seg xs ih =>
    have first := others seg List.mem_cons_self
    have rest := ih fun other member => others other (List.mem_cons_of_mem seg member)
    simp only [List.cons_append, cutAt, first, rest, Cut.extend_extend, textOf_cons]

/-- A stretch without blocks of the entry is not cut. -/
theorem cutAt_of_others {place : Nat} {xs : List Segment}
    (others : ∀ seg ∈ xs, seg.blockOf? place = none) : cutAt place xs = ⟨[], textOf xs⟩ := by
  have cut := cutAt_append others []
  simpa [cutAt, Cut.extend] using cut

end Segment

private theorem getElem?_reverse_cons (entry : PlanEntry) (rest : List PlanEntry) :
    (entry :: rest).reverse[rest.length]? = some entry := by
  simp

private theorem getElem?_reverse_of_lt {entry : PlanEntry} {rest : List PlanEntry} {place : Nat}
    (before : place < rest.length) :
    (entry :: rest).reverse[place]? = rest.reverse[place]? := by
  rw [List.reverse_cons, List.getElem?_append_left (by simpa using before)]

/-- No segment of a gap is a block of the entry that left the gap. -/
private theorem blockOf?_segments_self (rest : List PlanEntry) (gap : String) :
    ∀ seg ∈ segments rest gap, seg.blockOf? rest.length = none := by
  intro seg member
  apply Segment.blockOf?_eq_none
  intro placed
  exact Nat.lt_irrefl _ (place_lt_of_mem_segments member placed)

theorem ofPlan_of_mem_segments {entries : List PlanEntry} {text : String} {seg : Segment}
    (member : seg ∈ segments entries text) : seg.OfPlan entries.reverse := by
  induction entries generalizing text with
  | nil =>
    obtain rfl := List.mem_singleton.1 member
    trivial
  | cons entry rest ih =>
    rw [List.reverse_cons]
    cases scanned : entry.needsScan with
    | false =>
      rw [segments_skip scanned] at member
      exact (ih member).append _
    | true =>
      simp only [segments_scan scanned, List.mem_append, List.mem_flatMap, List.mem_singleton]
        at member
      rcases member with ⟨piece, _, inside | rfl⟩ | inside
      · exact (ih inside).append _
      · rw [← List.reverse_cons]
        cases entry with
        | exclude matcher => exact getElem?_reverse_cons _ rest
        | keep matcher => trivial
        | expand matcher names => exact getElem?_reverse_cons _ rest
      · exact (ih inside).append _

/-- The last entry, if it needs scanning, cuts the whole document. -/
private theorem cutAt_segments_self {entry : PlanEntry} (scanned : entry.needsScan = true)
    (rest : List PlanEntry) (text : String) :
    Segment.cutAt rest.length (segments (entry :: rest) text) = entry.matcher.pattern.cut text := by
  rw [segments_scan scanned]
  obtain ⟨pieces, tail⟩ := entry.matcher.pattern.cut text
  induction pieces with
  | nil =>
    have last := Segment.cutAt_of_others (blockOf?_segments_self rest tail)
    simpa [text_segments] using last
  | cons piece pieces ih =>
    obtain ⟨gap, m⟩ := piece
    simp only [List.flatMap_cons, List.append_assoc] at ih ⊢
    rw [Segment.cutAt_append (blockOf?_segments_self rest gap), text_segments,
      List.singleton_append, Segment.cutAt, Segment.blockOf?_ofMatch scanned]
    simp only [ih, Cut.cons, Cut.extend, String.append_empty]

/-- What an earlier entry is handed are gaps of the document at hand. -/
private theorem gaps_scan {entry : PlanEntry} (scanned : entry.needsScan = true)
    {rest : List PlanEntry} {text : String} {place : Nat} (before : place < rest.length)
    {stretch : List Segment}
    (member : stretch ∈ Segment.gaps place (segments (entry :: rest) text)) :
    ∃ gap, stretch ∈ Segment.gaps place (segments rest gap) := by
  rw [segments_scan scanned] at member
  generalize entry.matcher.pattern.cut text = cut at member
  obtain ⟨pieces, tail⟩ := cut
  induction pieces with
  | nil => exact ⟨tail, by simpa using member⟩
  | cons piece pieces ih =>
    obtain ⟨gap, m⟩ := piece
    have later : (Segment.ofMatch rest.length entry m).isAfter place = true := by
      simpa [Segment.isAfter, Segment.place?_ofMatch scanned] using before
    simp only [List.flatMap_cons, List.append_assoc, List.cons_append] at ih member
    rw [Segment.gaps, List.splitOnP_append_cons _ _ later, List.mem_append] at member
    rcases member with inside | behind
    · exact ⟨gap, inside⟩
    · exact ih behind

/-- An entry after which nothing is scanned for is handed the whole document. -/
private theorem gaps_of_last {entries : List PlanEntry} {place : Nat}
    (last : ∀ later > place, ∀ other, entries.reverse[later]? = some other →
      other.needsScan = false) (text : String) :
    Segment.gaps place (segments entries text) = [segments entries text] := by
  apply List.splitOnP_eq_singleton
  intro seg member
  have planned := ofPlan_of_mem_segments member
  cases seg with
  | kept text => rfl
  | dropped other matcher m =>
    have small : ¬ place < other := fun later => by cases last other later _ planned
    simpa [Segment.isAfter, Segment.place?] using small
  | replaced other matcher names m =>
    have small : ¬ place < other := fun later => by cases last other later _ planned
    simpa [Segment.isAfter, Segment.place?] using small

/-- In every gap that it is handed, the blocks of an entry are the matches of its pattern. -/
theorem cutAt_of_mem_gaps {entries : List PlanEntry} {text : String} {place : Nat}
    {entry : PlanEntry} (placed : entries.reverse[place]? = some entry)
    (scanned : entry.needsScan = true) {stretch : List Segment}
    (member : stretch ∈ Segment.gaps place (segments entries text)) :
    Segment.cutAt place stretch = entry.matcher.pattern.cut (Segment.textOf stretch) := by
  induction entries generalizing text with
  | nil => simp at placed
  | cons last rest ih =>
    have bound : place < rest.length + 1 := by
      simpa using (List.getElem?_eq_some_iff.1 placed).1
    rcases Nat.lt_succ_iff_lt_or_eq.1 bound with before | rfl
    · rw [getElem?_reverse_of_lt before] at placed
      cases passed : last.needsScan with
      | false => exact ih placed (segments_skip passed rest text ▸ member)
      | true =>
        obtain ⟨gap, inside⟩ := gaps_scan passed before member
        exact ih placed inside
    · obtain rfl : last = entry := by
        rw [getElem?_reverse_cons] at placed
        exact Option.some.inj placed
      have beyond : ∀ later > rest.length, ∀ other, (last :: rest).reverse[later]? = some other →
          other.needsScan = false := by
        intro later more other inside
        have small := (List.getElem?_eq_some_iff.1 inside).1
        simp only [List.length_reverse, List.length_cons] at small
        omega
      rw [gaps_of_last beyond, List.mem_singleton] at member
      rw [member, text_segments, cutAt_segments_self scanned]

/-- A segment is the slice of the document that begins where the segments before it end. -/
private theorem slice_of_textOf {segs before behind : List Segment} {seg : Segment} {text : String}
    (whole : Segment.textOf segs = text) (split : segs = before ++ seg :: behind) :
    (Segment.textOf before).length + seg.text.length ≤ text.length ∧
      seg.text.toList =
        Pattern.slice (Segment.textOf before).length
          ((Segment.textOf before).length + seg.text.length) text.toList := by
  subst whole split
  simp only [Segment.textOf_append, Segment.textOf_cons, String.length_append, Pattern.slice,
    String.toList_append, Nat.add_sub_cancel_left]
  refine ⟨by omega, ?_⟩
  rw [← String.length_toList, ← String.length_toList, List.drop_left, List.take_left]

/-- Assembly works through a document from left to right. The plan cuts the document into segments
that lie end to end in it: text, blocks of entries that strip them, and blocks of entries that
replace them; no search finds anything outside the text that it is given. In every gap that an entry
is handed, its blocks are exactly the matches of its pattern, and the last entry that is scanned for
is handed the document. The fragments, the requests and the changes of the origin are those of the
segments, in their order. -/
theorem assemble_in_document_order (plan : List PlanEntry) (text : String) :
    ∃ segs : List Segment,
      Segment.textOf segs = text ∧
      (∀ before seg behind, segs = before ++ seg :: behind →
        (Segment.textOf before).length + seg.text.length ≤ text.length ∧
        seg.text.toList =
          Pattern.slice (Segment.textOf before).length
            ((Segment.textOf before).length + seg.text.length) text.toList) ∧
      (∀ entry ∈ plan, ∀ before cs start size groups,
        entry.matcher.pattern.findIn before cs = some (start, size, groups) →
          start + size ≤ cs.length) ∧
      (∀ seg ∈ segs, seg.OfPlan plan) ∧
      (∀ place entry, plan[place]? = some entry → entry.Scans →
        (∀ gap ∈ Segment.gaps place segs,
          Segment.cutAt place gap = entry.matcher.pattern.cut (Segment.textOf gap)) ∧
        ((∀ later > place, ∀ other, plan[later]? = some other → ¬ other.Scans) →
          Segment.cutAt place segs = entry.matcher.pattern.cut text)) ∧
      ∀ (σ : Type) (a : Assembly σ) (depth : Nat) (s : σ),
        let outcomes := Run.trace (Segment.run (a.expand depth)) segs s
        (a.assemble depth plan text s).value = outcomes.flatMap (·.value) ∧
        (a.assemble depth plan text s).requests = outcomes.flatMap (·.requests) ∧
        (a.assemble depth plan text s).state =
          Run.after (Segment.run (a.expand depth)) segs s := by
  have whole := text_segments plan.reverse text
  refine ⟨segments plan.reverse text, whole, ?_, ?_, ?_, ?_, ?_⟩
  · intro before seg behind split
    exact slice_of_textOf whole split
  · intro entry _ before cs start size groups found
    exact entry.matcher.pattern.findIn_within before cs found
  · intro seg member
    have planned := ofPlan_of_mem_segments member
    rwa [List.reverse_reverse] at planned
  · intro place entry placed scans
    have scanned := PlanEntry.needsScan_iff.2 scans
    rw [← List.reverse_reverse plan] at placed
    refine ⟨fun gap member => cutAt_of_mem_gaps placed scanned member, ?_⟩
    intro last
    simp only [← PlanEntry.needsScan_iff, Bool.not_eq_true] at last
    rw [← List.reverse_reverse plan] at last
    have first : segments plan.reverse text ∈ Segment.gaps place (segments plan.reverse text) := by
      rw [gaps_of_last last]
      exact List.mem_singleton_self _
    rw [cutAt_of_mem_gaps placed scanned first, whole]
  · intro σ a depth s
    have outcome : a.assemble depth plan text s =
        Run.gather (Segment.run (a.expand depth)) (segments plan.reverse text) s :=
      congrFun (Assembly.fragments_eq_gather _ _ _) s
    rw [outcome, Run.gather_apply]
    exact ⟨rfl, rfl, rfl⟩

end Transclusion
