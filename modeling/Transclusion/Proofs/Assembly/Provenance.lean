import Transclusion.Proofs.Assembly.Evaluation

/-!
# Provenance

Where the requests of an assembly come from. Nobody but a block makes an assembly ask for anything,
and the block stands in a document that is at hand by then: the text that is assembled, or what an
earlier request has brought. So every request can be followed back, from reference to document to
request, to the text.

## Main results

`assemble_requests`: the form of a request, and the block that it is made for.
-/

namespace Transclusion

variable {σ : Type}

/-! ### Places in a log -/

section

variable {α : Type} {before after xs ys zs : List α} {x : α}

theorem ne_nil_of_split (split : xs = before ++ x :: after) : xs ≠ [] :=
  split ▸ List.append_ne_nil_of_right_ne_nil _ (List.cons_ne_nil _ _)

private theorem split_append (split : xs ++ ys = before ++ x :: after) :
    (∃ rest, xs = before ++ x :: rest) ∨
      ∃ front, before = xs ++ front ∧ ys = front ++ x :: after := by
  rcases List.append_eq_append_iff.1 split with ⟨front, first, second⟩ | ⟨back, first, second⟩
  · exact .inr ⟨front, first, second⟩
  · cases back with
    | nil => exact .inr ⟨[], by simpa using first.symm, by simpa using second.symm⟩
    | cons y back =>
      obtain ⟨rfl, -⟩ := List.cons.inj second
      exact .inl ⟨back, first⟩

/-- A place in a log of three parts lies in one of them. -/
private theorem split_parts (split : xs ++ ys ++ zs = before ++ x :: after) :
    (∃ rest, xs = before ++ x :: rest) ∨
      (∃ front rest, before = xs ++ front ∧ ys = front ++ x :: rest) ∨
      ∃ front, before = xs ++ ys ++ front ∧ zs = front ++ x :: after := by
  rcases split_append split with ⟨rest, inside⟩ | last
  · rcases split_append inside with first | ⟨front, passed, second⟩
    · exact .inl first
    · exact .inr (.inl ⟨front, rest, passed, second⟩)
  · exact .inr (.inr last)

end

namespace Assembly

/-- Whether a request is made for the reference in a block that a plan has replaced in a document. -/
def Calls (plan : List PlanEntry) (document : String) (request : Request) : Prop :=
  ∃ place matcher names m reference,
    .replaced place matcher names m ∈ segments plan.reverse document ∧
    matcher.findReference m.whole = some reference ∧
    parseReference reference = (request.uri, request.parameters)

/-- The documents at hand, with their plans, once the requests `earlier` have been made from a state
`s` on: the text that is assembled, and what these requests have brought. -/
inductive AtHand (a : Assembly σ) (s : σ) (plan : List PlanEntry) (text : String)
    (earlier : List Request) : List PlanEntry → String → Prop where
  | text : AtHand a s plan text earlier plan text
  | brought {before request between names entries content}
      (made : earlier = before ++ request :: between)
      (brought : (a.origin.reply (a.origin.after s before) request).1.bind a.reader.contentOf =
        .ok content)
      (planned : a.repository.resolve a.assemblage fetchMethod request.uri a.headers names true =
        .plan entries) :
      AtHand a s plan text earlier entries content

/-- What a wanted request is, and how names resolve in what it asks for. -/
theorem wanted?_eq_some {a : Assembly σ} {matcher : Matcher} {names : List String} {m : Match}
    {request : Request} {resolution : Resolution}
    (wanted : a.wanted? matcher names m = some (request, resolution)) :
    ∃ reference, matcher.findReference m.whole = some reference ∧
      parseReference reference = (request.uri, request.parameters) ∧
      request = a.request request.uri request.parameters ∧
      resolution = a.repository.resolve a.assemblage fetchMethod request.uri a.headers names
        true := by
  unfold wanted? at wanted
  cases found : matcher.findReference m.whole with
  | none => simp only [found, reduceCtorEq] at wanted
  | some reference =>
    have bare := dropSlashes_parseReference reference
    cases parsed : parseReference reference with
    | mk uri parameters =>
      simp only [found, parsed, Option.ite_none_right_eq_some, Option.some.injEq,
        Prod.mk.injEq] at wanted
      obtain ⟨-, rfl, rfl⟩ := wanted
      rw [parsed] at bare
      have same : (a.request uri parameters).uri = uri := bare
      refine ⟨reference, rfl, ?_, ?_, ?_⟩
      · rw [parsed, same]
        rfl
      · rw [same]
        rfl
      · rw [same]

/-- Whether a call has a block that leads to a request. -/
def Call.Leads (a : Assembly σ) (call : Call) (request : Request) : Prop :=
  ∃ place matcher names m resolution, .replaced place matcher names m ∈ call.segments ∧
    a.wanted? matcher names m = some (request, resolution)

theorem Call.Leads.mono {a : Assembly σ} {call other : Call} {request : Request}
    (leads : call.Leads a request) (inside : ∀ seg ∈ call.segments, seg ∈ other.segments) :
    other.Leads a request := by
  obtain ⟨place, matcher, names, m, resolution, member, wanted⟩ := leads
  exact ⟨place, matcher, names, m, resolution, inside _ member, wanted⟩

theorem Call.Leads.of_block {a : Assembly σ} {entry : PlanEntry} {m : Match}
    {request : Request} (leads : (Call.block entry m).Leads a request) (rest : List PlanEntry)
    (gap : String) (pieces : List (String × Match)) (tail : String) :
    (Call.cut entry rest ((gap, m) :: pieces) tail).Leads a request := by
  obtain ⟨place, matcher, names, m', resolution, member, wanted⟩ := leads
  cases entry with
  | exclude | keep => cases List.mem_singleton.1 member
  | expand =>
    cases List.mem_singleton.1 member
    refine ⟨rest.length, matcher, names, m, resolution, ?_, wanted⟩
    rw [segments_piece]
    exact List.mem_append_right _ List.mem_cons_self

/-- A request is made for a block of the call, or of a document that has been opened before. -/
theorem Evaluates.leads_of_dispatched {a : Assembly σ} {limit level : Nat} {call : Call} {s t : σ}
    {values : List String} {log : List Event}
    (evaluation : Evaluates a limit level call s values log t) {before after : List Event}
    {deep : Nat} {request : Request} (split : log = before ++ .dispatched deep request :: after) :
    call.Leads a request ∨
      ∃ inner stack text, .opened inner stack text ∈ before ∧
        (Call.scope stack text).Leads a request := by
  induction evaluation generalizing before after with
  | exhausted | stripped | kept | atLimit | unwanted =>
    exact absurd rfl (ne_nil_of_split split)
  | passed passed _ ih =>
    refine (ih split).imp_left fun leads => leads.mono fun seg member => ?_
    rwa [Call.segments_passed passed]
  | scanned scanned _ ih =>
    refine (ih split).imp_left fun leads => leads.mono fun seg member => ?_
    rwa [Call.segments_scanned scanned]
  | last _ ih => exact ih split
  | @piece level entry rest gap m pieces tail _ _ _ _ _ _ _ _ _ _ _ _ _ ihGap ihBlock ihOthers =>
    rcases split_parts split with ⟨_, first⟩ | ⟨front, _, rfl, second⟩ | ⟨front, rfl, others⟩
    · refine (ihGap first).imp_left fun leads => leads.mono fun seg member => ?_
      rw [Call.segments_piece]
      exact List.mem_append_left _ member
    · rcases ihBlock second with leads | ⟨inner, stack, text, opened, leads⟩
      · exact .inl (leads.of_block rest gap pieces tail)
      · exact .inr ⟨inner, stack, text, List.mem_append_right _ opened, leads⟩
    · rcases ihOthers others with leads | ⟨inner, stack, text, opened, leads⟩
      · refine .inl (leads.mono fun seg member => ?_)
        rw [Call.segments_piece]
        exact List.mem_append_right _ (List.mem_cons_of_mem _ member)
      · exact .inr ⟨inner, stack, text, List.mem_append_right _ opened, leads⟩
  | @failed level matcher names m _ resolution _ _ _ _ wanted _ =>
    cases before with
    | nil =>
      cases split
      exact .inl ⟨0, matcher, names, m, resolution, List.mem_cons_self, wanted⟩
    | cons event before =>
      exact absurd rfl (ne_nil_of_split (List.cons.inj split).2)
  | @spliced level matcher names m _ resolution _ content _ _ _ _ _ wanted _ _ ih =>
    -- The block makes one request and opens one document; all else happens inside that document.
    cases before with
    | nil =>
      cases split
      exact .inl ⟨0, matcher, names, m, resolution, List.mem_cons_self, wanted⟩
    | cons event before =>
      cases before with
      | nil => cases split
      | cons event' before =>
        cases split
        rcases ih rfl with leads | ⟨inner, stack, text, opened, leads⟩
        · exact .inr ⟨level + 1, stackOf resolution, content,
            List.mem_cons_of_mem _ List.mem_cons_self, leads⟩
        · exact .inr ⟨inner, stack, text,
            List.mem_cons_of_mem _ (List.mem_cons_of_mem _ opened), leads⟩

/-- Whether the last of some requests, which are made from a state `s` on, brings a document. -/
def Brings (a : Assembly σ) (s : σ) (made : List Request) (stack : List PlanEntry)
    (text : String) : Prop :=
  ∃ earlier request names, made = earlier ++ [request] ∧
    (a.origin.reply (a.origin.after s earlier) request).1.bind a.reader.contentOf = .ok text ∧
    stack = stackOf
      (a.repository.resolve a.assemblage fetchMethod request.uri a.headers names true)

theorem Brings.prepend {a : Assembly σ} {s : σ} (first : List Request) {made : List Request}
    {stack : List PlanEntry} {text : String}
    (brings : a.Brings (a.origin.after s first) made stack text) :
    a.Brings s (first ++ made) stack text := by
  obtain ⟨earlier, request, names, rfl, brought, planned⟩ := brings
  rw [← Origin.after_append] at brought
  exact ⟨first ++ earlier, request, names, (List.append_assoc ..).symm, brought, planned⟩

/-- A document is opened right after the request that brings it. -/
theorem Evaluates.brings_of_opened {a : Assembly σ} {limit level : Nat} {call : Call} {s t : σ}
    {values : List String} {log : List Event}
    (evaluation : Evaluates a limit level call s values log t) {before after : List Event}
    {deep : Nat} {stack : List PlanEntry} {text : String}
    (split : log = before ++ .opened deep stack text :: after) :
    a.Brings s (requestsOf before) stack text := by
  induction evaluation generalizing before after with
  | exhausted | stripped | kept | atLimit | unwanted =>
    exact absurd rfl (ne_nil_of_split split)
  | passed _ _ ih | scanned _ _ ih | last _ ih => exact ih split
  | piece first second _ ihGap ihBlock ihOthers =>
    rcases split_parts split with ⟨_, inGap⟩ | ⟨front, _, rfl, inBlock⟩ | ⟨front, rfl, others⟩
    · exact ihGap inGap
    · have brings := ihBlock inBlock
      rw [first.state_eq] at brings
      rw [requestsOf_append]
      exact brings.prepend _
    · have brings := ihOthers others
      rw [second.state_eq, first.state_eq, ← Origin.after_append] at brings
      rw [requestsOf_append, requestsOf_append]
      exact brings.prepend _
  | failed =>
    cases before with
    | nil => cases split
    | cons event before =>
      exact absurd rfl (ne_nil_of_split (List.cons.inj split).2)
  | @spliced level matcher names m request resolution s content t values log u _ wanted fetched _
      ih =>
    rw [ContentReader.fetch_apply] at fetched
    obtain ⟨brought, -, rfl⟩ := Outcome.mk.inj fetched
    cases before with
    | nil => cases split
    | cons event before =>
      cases before with
      | nil =>
        cases split
        obtain ⟨_, _, _, _, resolved⟩ := wanted?_eq_some wanted
        exact ⟨[], request, names, rfl, brought, congrArg stackOf resolved⟩
      | cons event' before =>
        cases split
        exact (ih rfl).prepend [request]

private theorem exists_dispatched {log : List Event} {before after : List Request}
    {request : Request} (made : requestsOf log = before ++ request :: after) :
    ∃ early level late, log = early ++ .dispatched level request :: late ∧
      requestsOf early = before := by
  obtain ⟨early, rest, rfl, first, later⟩ := List.filterMap_eq_append_iff.1 made
  obtain ⟨silent, event, late, rfl, unasked, here, -⟩ := List.filterMap_eq_cons_iff.1 later
  cases event with
  | opened level stack text => cases here
  | dispatched level other =>
    cases here
    refine ⟨early ++ silent, level, late, by rw [List.append_assoc], ?_⟩
    have quiet : requestsOf silent = [] := List.filterMap_eq_nil_iff.2 unasked
    rw [requestsOf_append, quiet, List.append_nil]
    exact first

private theorem Call.Leads.calls {a : Assembly σ} {plan : List PlanEntry} {text : String}
    {request : Request} (leads : (Call.scope plan.reverse text).Leads a request) :
    Calls plan text request := by
  obtain ⟨place, matcher, names, m, resolution, member, wanted⟩ := leads
  obtain ⟨reference, found, parsed, -⟩ := wanted?_eq_some wanted
  exact ⟨place, matcher, names, m, reference, member, found, parsed⟩

/-- Every request of an assembly is a fetch that repeats the scheme and the headers of the assembly,
for the reference in a block of a document that is at hand when the request is made. -/
theorem assemble_requests (a : Assembly σ) (limit : Nat) (plan : List PlanEntry) (text : String)
    (s : σ) {before after : List Request} {request : Request}
    (made : (a.assemble limit plan text s).requests = before ++ request :: after) :
    request = a.request request.uri request.parameters ∧
      ∃ entries document, a.AtHand s plan text before entries document ∧
        Calls entries document request := by
  obtain ⟨values, log, t, evaluation⟩ := exists_evaluates a limit 0 plan.reverse text s
  have outcome : a.assemble limit plan text s = ⟨values, requestsOf log, t⟩ := evaluation.run_eq
  rw [outcome] at made
  obtain ⟨early, level, late, split, rfl⟩ := exists_dispatched made
  have form (call : Call) (leads : call.Leads a request) :
      request = a.request request.uri request.parameters := by
    obtain ⟨_, _, _, _, _, -, wanted⟩ := leads
    obtain ⟨_, -, -, form, -⟩ := wanted?_eq_some wanted
    exact form
  rcases evaluation.leads_of_dispatched split with leads | ⟨inner, stack, document, opened, leads⟩
  · exact ⟨form _ leads, plan, text, .text, leads.calls⟩
  · refine ⟨form _ leads, ?_⟩
    obtain ⟨front, between, rfl⟩ := List.append_of_mem opened
    rw [List.append_assoc, List.cons_append] at split
    obtain ⟨earlier, source, names, here, brought, planned⟩ := evaluation.brings_of_opened split
    have earliest : requestsOf (front ++ .opened inner stack document :: between) =
        earlier ++ source :: requestsOf between := by
      rw [requestsOf_append, requestsOf_opened, here, List.append_assoc, List.singleton_append]
    cases resolved : a.repository.resolve a.assemblage fetchMethod source.uri a.headers names
      true with
    | plan entries =>
      rw [planned, resolved] at leads
      exact ⟨entries, document, .brought earliest brought resolved, leads.calls⟩
    -- Without a plan a document is one text that stays.
    | halt | verbatim =>
      rw [planned, resolved] at leads
      obtain ⟨_, _, _, _, _, member, -⟩ := leads
      cases List.mem_singleton.1 member

end Assembly

end Transclusion
