import Transclusion.Assembly
import Transclusion.Proofs.Trace

/-!
# Segments

A plan cuts a document into segments before anything is fetched: text that stays, blocks that are
stripped, and blocks that are replaced. Each block carries the place of its entry in the plan.
Assembling a document is working off its segments in order.

## Main results

`text_segments`: the segments of a document, put together again, are the document.
`fragments_eq_gather`: the fragments of a document are those of its segments.
-/

namespace Transclusion

/-- A part of a document, with what becomes of it. -/
inductive Segment where
  /-- Text outside every block. -/
  | kept (text : String)
  /-- A block that is stripped. -/
  | dropped (place : Nat) (matcher : Matcher) (m : Match)
  /-- A block that is replaced by the content it refers to. -/
  | replaced (place : Nat) (matcher : Matcher) (names : List String) (m : Match)

namespace Segment

/-- The part of the document that a segment covers. -/
def text : Segment → String
  | kept text => text
  | dropped _ _ m | replaced _ _ _ m => m.whole

/-- The place in the plan of the entry that a block belongs to. -/
def place? : Segment → Option Nat
  | kept _ => none
  | dropped place _ _ | replaced place _ _ _ => some place

/-- The match of a block that belongs to the entry at a place. -/
def blockOf? (place : Nat) : Segment → Option Match
  | kept _ => none
  | dropped other _ m | replaced other _ _ m => if other = place then some m else none

/-- Whether a segment is a block of an entry after a place. -/
def isAfter (place : Nat) (seg : Segment) : Bool :=
  seg.place?.any (place < ·)

/-- Whether a block is handed on to be replaced. -/
def isReplaced : Segment → Bool
  | replaced .. => true
  | _ => false

/-- The text that consecutive segments cover. -/
def textOf (segs : List Segment) : String := String.join (segs.map text)

variable {σ : Type}

/-- What a segment comes to. -/
def run (expansion : Assembly.Expansion σ) : Segment → Run σ (List String)
  | kept text => return [text]
  | dropped .. => return []
  | replaced _ matcher names m => do return [← expansion matcher names m]

/-- The segment that a match of an entry is. -/
def ofMatch (place : Nat) (entry : PlanEntry) (m : Match) : Segment :=
  match entry with
  | .exclude matcher => dropped place matcher m
  | .keep _ => kept m.whole
  | .expand matcher names => replaced place matcher names m

@[simp] theorem textOf_append (xs ys : List Segment) :
    textOf (xs ++ ys) = textOf xs ++ textOf ys := by
  simp [textOf]

@[simp] theorem textOf_nil : textOf [] = "" := rfl

@[simp] theorem textOf_cons (seg : Segment) (segs : List Segment) :
    textOf (seg :: segs) = seg.text ++ textOf segs := by
  simp [textOf]

@[simp] theorem text_ofMatch (place : Nat) (entry : PlanEntry) (m : Match) :
    (ofMatch place entry m).text = m.whole := by
  cases entry <;> rfl

theorem run_ofMatch (expansion : Assembly.Expansion σ) (place : Nat) (entry : PlanEntry)
    (m : Match) : (ofMatch place entry m).run expansion = Assembly.block expansion entry m := by
  cases entry <;> rfl

/-- Entries that are scanned for have a place. -/
theorem place?_ofMatch {entry : PlanEntry} (scanned : entry.needsScan = true) (place : Nat)
    (m : Match) : (ofMatch place entry m).place? = some place := by
  cases entry with
  | exclude matcher => rfl
  | keep matcher => simp [PlanEntry.needsScan] at scanned
  | expand matcher names => rfl

theorem blockOf?_ofMatch {entry : PlanEntry} (scanned : entry.needsScan = true) (place : Nat)
    (m : Match) : (ofMatch place entry m).blockOf? place = some m := by
  cases entry with
  | exclude matcher => exact if_pos rfl
  | keep matcher => simp [PlanEntry.needsScan] at scanned
  | expand matcher names => exact if_pos rfl

theorem blockOf?_eq_none {seg : Segment} {place : Nat} (other : seg.place? ≠ some place) :
    seg.blockOf? place = none := by
  cases seg <;> simp_all [blockOf?, place?]

end Segment

/-- The segments of a document by the entries of a plan from its end. -/
def segments : List PlanEntry → String → List Segment
  | [], text => [.kept text]
  | entry :: rest, text =>
    if entry.needsScan then
      let cut := entry.matcher.pattern.cut text
      cut.pieces.flatMap (fun (gap, m) => segments rest gap ++ [.ofMatch rest.length entry m]) ++
        segments rest cut.tail
    else segments rest text

theorem segments_skip {entry : PlanEntry} (passed : entry.needsScan = false)
    (rest : List PlanEntry) (text : String) :
    segments (entry :: rest) text = segments rest text := by
  simp [segments, passed]

theorem segments_scan {entry : PlanEntry} (scanned : entry.needsScan = true)
    (rest : List PlanEntry) (text : String) :
    segments (entry :: rest) text =
      (entry.matcher.pattern.cut text).pieces.flatMap
        (fun (gap, m) => segments rest gap ++ [.ofMatch rest.length entry m]) ++
      segments rest (entry.matcher.pattern.cut text).tail := by
  simp [segments, scanned]

/-- The segments of a document, put together again, are the document. -/
theorem text_segments (entries : List PlanEntry) (text : String) :
    Segment.textOf (segments entries text) = text := by
  induction entries generalizing text with
  | nil => simp [segments, Segment.text]
  | cons entry rest ih =>
    cases scanned : entry.needsScan with
    | false => rw [segments_skip scanned, ih]
    | true =>
      rw [segments_scan scanned, ← String.toList_inj, ← Pattern.text_cut entry.matcher.pattern text]
      generalize entry.matcher.pattern.cut text = cut
      simp only [Cut.text, Segment.textOf_append, ih, String.toList_append]
      congr 1
      induction cut.pieces with
      | nil => rfl
      | cons piece pieces more =>
        simp only [List.flatMap_cons, Segment.textOf_append, String.toList_append, more, ih,
          Segment.textOf_cons, Segment.textOf_nil, Segment.text_ofMatch, String.append_empty]

/-- The entry of every block stands at its place, which is one of the plan. -/
theorem place_lt_of_mem_segments {entries : List PlanEntry} {text : String} {seg : Segment}
    (member : seg ∈ segments entries text) {place : Nat} (placed : seg.place? = some place) :
    place < entries.length := by
  induction entries generalizing text with
  | nil =>
    obtain rfl := List.mem_singleton.1 member
    simp [Segment.place?] at placed
  | cons entry rest ih =>
    rw [List.length_cons]
    cases scanned : entry.needsScan with
    | false =>
      rw [segments_skip scanned] at member
      exact Nat.lt_succ_of_lt (ih member)
    | true =>
      simp only [segments_scan scanned, List.mem_append, List.mem_flatMap, List.mem_singleton]
        at member
      rcases member with ⟨piece, _, inside | rfl⟩ | inside
      · exact Nat.lt_succ_of_lt (ih inside)
      · rw [Segment.place?_ofMatch scanned] at placed
        cases placed
        exact Nat.lt_succ_self _
      · exact Nat.lt_succ_of_lt (ih inside)

namespace Assembly

variable {σ : Type}

theorem fragments_scan (expansion : Expansion σ) {entry : PlanEntry}
    (scanned : entry.needsScan = true) (rest : List PlanEntry) (text : String) :
    fragments expansion (entry :: rest) text = (do
      let cut := entry.matcher.pattern.cut text
      let front ← Run.gather (fun (gap, m) => do
        let before ← fragments expansion rest gap
        return before ++ (← block expansion entry m)) cut.pieces
      let last ← fragments expansion rest cut.tail
      return front ++ last) := by
  simp [fragments, scanned]

/-- The fragments of a document are those of its segments, one after the other. -/
theorem fragments_eq_gather (expansion : Expansion σ) (entries : List PlanEntry) (text : String) :
    fragments expansion entries text =
      Run.gather (Segment.run expansion) (segments entries text) := by
  induction entries generalizing text with
  | nil => exact (Run.gather_singleton _ _).symm
  | cons entry rest ih =>
    cases scanned : entry.needsScan with
    | false => rw [fragments_skip expansion scanned, segments_skip scanned, ih]
    | true =>
      rw [fragments_scan expansion scanned, segments_scan scanned, Run.gather_append,
        Run.gather_flatMap]
      -- A piece is worked off as its gap, then its match.
      have piece (gap : String) (m : Match) :
          Run.gather (Segment.run expansion)
              (segments rest gap ++ [Segment.ofMatch rest.length entry m]) = (do
            let before ← fragments expansion rest gap
            return before ++ (← block expansion entry m)) := by
        rw [Run.gather_append, Run.gather_singleton, Segment.run_ofMatch, ih]
      simp only [piece, ih]

end Assembly

end Transclusion
