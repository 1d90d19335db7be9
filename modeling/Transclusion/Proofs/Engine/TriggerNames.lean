import Transclusion.Proofs.Assembly.Segment
import Transclusion.Proofs.Engine.Delivery
import Transclusion.Proofs.Plan.NameSets

/-!
# The names of the trigger header

The trigger header is nothing but a set of names. Of two runs for requests that differ only in how
that set is written, every plan has the same entries in the same order, at every depth of nesting;
so the same blocks are found in the same texts, and the same requests are made for them.

## Main results

`process_eq_of_same_names`: requests that ask for the same names are answered by the same run.
-/

namespace Transclusion

variable {σ : Type}

theorem Repository.resolve_same (p : Repository) (assemblage : Assemblage) (method uri : String)
    (headers : Headers) {names others : List String} (same : SameMembers names others)
    (trim : Bool) : Resolution.Same (p.resolve assemblage method uri headers names trim)
      (p.resolve assemblage method uri headers others trim) := by
  unfold Repository.resolve
  split
  · exact Resolution.resolve_same _ same trim
  · exact .halt

namespace Assembly

/-- Whether an expansion makes nothing of the order and the repetitions of names. -/
def Expansion.OfSet (expansion : Expansion σ) : Prop :=
  ∀ (matcher : Matcher) {names others : List String} (m : Match), SameMembers names others →
    expansion matcher names m = expansion matcher others m

theorem fragments_same {expansion : Expansion σ} (ofSet : expansion.OfSet)
    {entries others : List PlanEntry} (same : List.Forall₂ PlanEntry.Same entries others)
    (text : String) : fragments expansion entries text = fragments expansion others text := by
  induction same generalizing text with
  | nil => rfl
  | cons alike _ ih =>
    cases alike with
    | exclude matcher =>
      rw [fragments_scan expansion rfl, fragments_scan expansion rfl]
      simp only [ih]
    | keep matcher => rw [fragments_skip expansion rfl, fragments_skip expansion rfl, ih]
    | expand matcher names =>
      rw [fragments_scan expansion rfl, fragments_scan expansion rfl]
      simp only [PlanEntry.matcher, ih, block, ofSet matcher _ names]

theorem assembled_same {expansion : Expansion σ} (ofSet : expansion.OfSet)
    {resolution other : Resolution} (same : Resolution.Same resolution other) (text : String) :
    assembled expansion resolution text = assembled expansion other text := by
  cases same with
  | halt => rfl
  | verbatim => rfl
  | plan alike =>
    simp only [assembled, fragments_same ofSet (List.rel_reverse alike)]

/-- At every depth a block is replaced alike for names with the same members. -/
theorem expand_ofSet (a : Assembly σ) (depth : Nat) : Expansion.OfSet (a.expand depth) := by
  induction depth with
  | zero => exact fun _ _ _ _ _ => rfl
  | succ depth ih =>
    intro matcher names others m same
    unfold expand
    split
    next => rfl
    next reference _ =>
      have resolved := a.repository.resolve_same a.assemblage fetchMethod
        (parseReference reference).1 a.headers same true
      simp only [resolved.proceeds_eq, assembled_same ih resolved]

theorem assemble_same (a : Assembly σ) (depth : Nat) {entries others : List PlanEntry}
    (same : List.Forall₂ PlanEntry.Same entries others) (text : String) :
    a.assemble depth entries text = a.assemble depth others text :=
  fragments_same (a.expand_ofSet depth) (List.rel_reverse same) text

end Assembly

namespace Engine

theorem plan?_same (e : Engine) (r : Request) {names others : List String}
    (same : SameMembers names others) (response : Response) :
    Option.Rel (fun p q => p.1 = q.1 ∧ List.Forall₂ PlanEntry.Same p.2 q.2)
      (e.plan? r names response) (e.plan? r others response) := by
  unfold plan?
  rw [same.isEmpty_eq]
  split
  · exact .none
  · split
    next => exact .none
    next assemblage _ =>
      have resolved := e.repository.resolve_same assemblage r.method r.uri r.headers same false
      generalize e.repository.resolve assemblage r.method r.uri r.headers names false = here
        at resolved ⊢
      generalize e.repository.resolve assemblage r.method r.uri r.headers others false = there
        at resolved ⊢
      cases resolved with
      | halt => exact .none
      | verbatim => exact .none
      | plan alike => exact .some ⟨rfl, alike⟩

theorem answer_same (e : Engine) (o : Origin σ) {r r' : Request}
    (forwarded : e.forwarded r = e.forwarded r') (asked : SameMembers (e.asked r) (e.asked r'))
    (given : Response) : e.answer o r given = e.answer o r' given := by
  unfold answer
  rw [forwarded]
  have planned := e.plan?_same (e.forwarded r') asked given
  generalize e.plan? (e.forwarded r') (e.asked r) given = plan at planned ⊢
  generalize e.plan? (e.forwarded r') (e.asked r') given = plan' at planned ⊢
  cases planned with
  | none => rfl
  | some alike =>
    obtain ⟨same, entries⟩ := alike
    unfold assembleContent
    simp only [same, Assembly.assemble_same _ _ entries]

/-- Requests that agree on everything but the trigger header, and whose trigger headers hold the
same names, are answered by the same run: the same response, after the same requests to the origin,
which is left in the same state. -/
theorem process_eq_of_same_names (e : Engine) (o : Origin σ) {r r' : Request}
    (forwarded : e.forwarded r = e.forwarded r')
    (named : SameMembers
      ((RequestedName.decode r.headers e.settings.triggerHeader).map (·.name))
      ((RequestedName.decode r'.headers e.settings.triggerHeader).map (·.name))) :
    e.process o r = e.process o r' := by
  have asked : SameMembers (e.asked r) (e.asked r') := by
    intro name
    unfold Engine.asked requestedNames
    rw [mem_distinct, mem_distinct, named name]
  funext s
  cases replied : o.reply s (e.forwarded r) with
  | mk reply next =>
    cases reply with
    | error failure =>
      rw [process_of_error replied, process_of_error (forwarded ▸ replied), forwarded]
    | ok given =>
      rw [process_of_ok replied, process_of_ok (forwarded ▸ replied), forwarded,
        e.answer_same o forwarded asked]

/-- Two matchers on every page; the blocks of the second refer to other pages. -/
def notesAndFrames : Engine where
  repository :=
    { matchers := fun _ _ _ _ => some
        [.make (some "note") ((Pattern.compile? "<note>").getD default) none [],
          .make (some "frame") ((Pattern.compile? "<frame src=[a-z]+>").getD default)
            (Pattern.compile? "src=([a-z]+)") []]
      assemblage := fun _ => some (.make "page") }
  settings := default

/-- A request for a page with some headers. -/
def pageWith (entries : List (String × String)) : Request :=
  { Request.make "GET" "page" with headers := ⟨entries⟩ }

/-- The same two names, once in one header and once in two, with other blanks and letters, an
attribute and a repetition. -/
theorem process_eq_of_two_headers :
    notesAndFrames.process (Origin.stateless fun r => .ok (.ok r.uri []))
        (pageWith [("X-Filter", "frame.title,note"), ("Accept", "*/*")]) =
      notesAndFrames.process (Origin.stateless fun r => .ok (.ok r.uri []))
        (pageWith [("x-filter", "note , note"), ("Accept", "*/*"),
          ("X-FILTER", ",frame.title;q=1")]) := by
  have here : (RequestedName.decode
      (pageWith [("X-Filter", "frame.title,note"), ("Accept", "*/*")]).headers
      notesAndFrames.settings.triggerHeader).map (·.name) = ["frame.title", "note"] := by
    decide +kernel
  have there : (RequestedName.decode
      (pageWith [("x-filter", "note , note"), ("Accept", "*/*"),
        ("X-FILTER", ",frame.title;q=1")]).headers
      notesAndFrames.settings.triggerHeader).map (·.name) = ["note", "note", "frame.title"] := by
    decide +kernel
  refine process_eq_of_same_names notesAndFrames _ (by decide +kernel) ?_
  rw [here, there]
  intro name
  grind

end Engine

end Transclusion
