import Transclusion.Proofs.Assembly.DepthLimit
import Transclusion.Proofs.Engine.Assembled
import Transclusion.Proofs.Engine.Chunking

/-!
# Containment

What a resource can do to the blocks that do not lead to it. The work for a block depends on the
replies to the requests that are made for it, and on nothing else that an origin says. The blocks
themselves are found before anything is fetched for them. So a resource that breaks, changes or
grows shows in the blocks that lead to it, directly or through other resources, and nowhere else.

## Main results

`process_contained`: a change of one resource leaves every block alone that does not reach it.
-/

namespace Transclusion

namespace Assembly

variable {σ : Type} {a : Assembly σ} {limit level : Nat} {call : Call} {s t : σ}
  {values : List String} {log : List Event}

/-- An origin that says the same to the requests of an evaluation can take the place of the other.
Which requests there are in it is only known from what has been said before. -/
theorem Evaluates.against {o : Origin σ} (evaluation : Evaluates a limit level call s values log t)
    (agree : ∀ request ∈ requestsOf log, ∀ s, o.reply s request = a.origin.reply s request) :
    Evaluates (a.against o) limit level call s values log t := by
  induction evaluation with
  | exhausted level text s => exact .exhausted level text s
  | stripped level matcher m s => exact .stripped level matcher m s
  | kept level matcher m s => exact .kept level matcher m s
  | atLimit reached matcher names m s => exact .atLimit reached matcher names m s
  | @unwanted _ matcher names m below unwanted s =>
    have unwanted : (a.against o).wanted? matcher names m = none := unwanted
    exact .unwanted below unwanted s
  | passed passed _ ih => exact .passed passed (ih agree)
  | scanned scanned _ ih => exact .scanned scanned (ih agree)
  | last _ ih => exact .last (ih agree)
  | piece _ _ _ first second others =>
    rw [requestsOf_append, requestsOf_append] at agree
    refine .piece (first fun request member => ?_) (second fun request member => ?_)
      (others fun request member => ?_)
    · exact agree request (List.mem_append_left _ (List.mem_append_left _ member))
    · exact agree request (List.mem_append_left _ (List.mem_append_right _ member))
    · exact agree request (List.mem_append_right _ member)
  | @failed _ _ _ _ request _ s _ _ below wanted fetched =>
    have here := agree request List.mem_cons_self s
    refine .failed below wanted ?_
    rw [← fetched, ContentReader.fetch_apply, ContentReader.fetch_apply]
    simp only [Assembly.against, here]
  | @spliced _ _ _ _ request _ s _ _ _ _ _ below wanted fetched _ ih =>
    have here := agree request List.mem_cons_self s
    refine .spliced below wanted ?_ (ih fun inner member => ?_)
    · rw [← fetched, ContentReader.fetch_apply, ContentReader.fetch_apply]
      simp only [Assembly.against, here]
    · exact agree inner (List.mem_cons_of_mem _ member)

/-- The work for a segment depends on the replies to its own requests only. -/
theorem run_against {o : Origin σ} (a : Assembly σ) (limit : Nat) (seg : Segment) (s : σ)
    (agree : ∀ request ∈ (seg.run (a.expand limit) s).requests,
      ∀ s, o.reply s request = a.origin.reply s request) :
    seg.run ((a.against o).expand limit) s = seg.run (a.expand limit) s := by
  cases seg with
  | kept text => rfl
  | dropped place matcher m => rfl
  | replaced place matcher names m =>
    obtain ⟨values, log, t, evaluation⟩ := ends_block a limit 0 (.expand matcher names) m
      (fun _ stack text => exists_evaluates a limit 1 stack text) s
    have outcome : Segment.run (a.expand limit) (.replaced place matcher names m) s =
        ⟨values, requestsOf log, t⟩ := evaluation.run_eq
    rw [outcome] at agree ⊢
    exact (evaluation.against agree).run_eq

end Assembly

namespace Engine

variable {e : Engine} {r : Request} {reply reply' : Request → Reply} {given : Response}
  {assemblage : Assemblage} {plan : List PlanEntry} {decoded : Decoded}

/-- What a segment of the first content comes to in a run for `r`, against an origin without
memory. -/
def contribution (e : Engine) (reply : Request → Reply) (r : Request) (assemblage : Assemblage)
    (seg : Segment) : Outcome Unit (List String) :=
  seg.run ((e.assembly (.stateless reply) assemblage (e.forwarded r)).expand e.settings.maxDepth) ()

theorem assembling_eq_contributions (e : Engine) (reply : Request → Reply) (r : Request)
    (assemblage : Assemblage) (plan : List PlanEntry) (decoded : Decoded) :
    e.assembling (.stateless reply) r assemblage plan decoded () =
      let outcomes := (segments plan.reverse decoded.text).map (e.contribution reply r assemblage)
      ⟨outcomes.flatMap (·.value), outcomes.flatMap (·.requests), ()⟩ := by
  unfold assembling Assembly.assemble
  rw [Assembly.fragments_eq_gather, Run.gather_apply, Run.trace_unit]
  rfl

/-- Origins that give the same reply to the first request lead to the same content and plan. -/
theorem Assembles.of_same_reply {assemblage : Assemblage}
    (assembles : e.Assembles (.stateless reply) r () given () assemblage plan decoded)
    (same : reply (e.forwarded r) = reply' (e.forwarded r)) :
    e.Assembles (.stateless reply') r () given () assemblage plan decoded := by
  have replied := assembles.replied
  refine ⟨?_, assembles.planned, assembles.read⟩
  simp only [Origin.stateless, same] at replied ⊢
  exact replied

theorem contribution_of_agree (seg : Segment)
    (agree : ∀ request ∈ (e.contribution reply r assemblage seg).requests,
      reply request = reply' request) :
    e.contribution reply r assemblage seg = e.contribution reply' r assemblage seg := by
  refine (Assembly.run_against (o := .stateless reply') _ _ seg () fun request member _ => ?_).symm
  simp only [assembly, Origin.stateless, agree request member]

/-- Whether a run is made of what the segments of the first content come to: it delivers their
fragments and makes their requests after the first one, in the order of the segments. -/
structure IsMadeOf (e : Engine) (reply : Request → Reply) (r : Request) (given : Response)
    (assemblage : Assemblage) (charset : Charset) (segs : List Segment) : Prop where
  value : (e.process (.stateless reply) r ()).value =
    deliver (e.settings.reader.buffer given).2 charset
      (String.join ((segs.map (e.contribution reply r assemblage)).flatMap (·.value)))
  requests : (e.process (.stateless reply) r ()).requests =
    e.forwarded r :: (segs.map (e.contribution reply r assemblage)).flatMap (·.requests)

theorem Assembles.isMadeOf {assemblage : Assemblage}
    (assembles : e.Assembles (.stateless reply) r () given () assemblage plan decoded) :
    e.IsMadeOf reply r given assemblage decoded.charset (segments plan.reverse decoded.text) := by
  have run := process_of_assembles assembles
  rw [assembling_eq_contributions] at run
  exact ⟨congrArg Outcome.value run, congrArg Outcome.requests run⟩

/-- Whether the work for a segment asks for nothing at `uri`. -/
def Avoids (e : Engine) (reply : Request → Reply) (r : Request) (assemblage : Assemblage)
    (uri : String) (seg : Segment) : Prop :=
  ∀ request ∈ (e.contribution reply r assemblage seg).requests, request.uri ≠ uri

/-- Two origins without memory that differ in nothing but what they say about `uri` lead to runs
that assemble the same content by the same plan, if they do so for a request that is for something
else. Both runs are made of what the segments of this content come to. A segment for which one of
the runs asks for nothing at `uri` comes to the same in both, and by the same requests. -/
theorem process_contained (e : Engine) (r : Request) {reply reply' : Request → Reply} {uri : String}
    (same : ∀ request, request.uri ≠ uri → reply request = reply' request) (outer : r.uri ≠ uri)
    {given : Response} {assemblage : Assemblage} {plan : List PlanEntry} {decoded : Decoded}
    (assembles : e.Assembles (.stateless reply) r () given () assemblage plan decoded) :
    e.Assembles (.stateless reply') r () given () assemblage plan decoded ∧
    Segment.textOf (segments plan.reverse decoded.text) = decoded.text ∧
    e.IsMadeOf reply r given assemblage decoded.charset (segments plan.reverse decoded.text) ∧
    e.IsMadeOf reply' r given assemblage decoded.charset (segments plan.reverse decoded.text) ∧
    ∀ seg ∈ segments plan.reverse decoded.text,
      e.Avoids reply r assemblage uri seg ∨ e.Avoids reply' r assemblage uri seg →
      e.contribution reply r assemblage seg = e.contribution reply' r assemblage seg := by
  have assembles' := assembles.of_same_reply (same (e.forwarded r) outer)
  refine ⟨assembles', text_segments _ _, assembles.isMadeOf, assembles'.isMadeOf, ?_⟩
  intro seg _ avoids
  rcases avoids with here | there
  · exact contribution_of_agree seg fun request member => same request (here request member)
  -- The requests are those of the other run, so it is this run that has to follow it.
  · refine (contribution_of_agree seg fun request member => ?_).symm
    exact (same request (there request member)).symm

/-- A page that refers to two others; `note` is what becomes of the second one. -/
def twoLinks (note : Reply) (r : Request) : Reply :=
  let page (text : String) : Reply := .ok (.ok "text/html" (Utf8.encode text.toList))
  if r.uri = "note" then note else if r.uri = "page" then page "<top><note>" else page "first"

/-- A note that is lost shows in its own block, and the other block does not change. -/
theorem process_contained_of_lost_note :
    let found := twoLinks (.ok (.ok "text/html" (Utf8.encode "second".toList)))
    let lost := twoLinks (.ok (.make 404))
    ((always Assembly.link).process (.stateless found) framedPage ()).value.source =
      some (.buffered (Utf8.encode "firstsecond".toList)) ∧
    ((always Assembly.link).process (.stateless lost) framedPage ()).value.source =
      some (.buffered (Utf8.encode "first<note>".toList)) ∧
    ∃ seg ∈ segments [.select Assembly.link ["frame"]] "<top><note>", seg.text = "<top>" ∧
      (always Assembly.link).contribution found framedPage (.make "page") seg =
        (always Assembly.link).contribution lost framedPage (.make "page") seg := by
  intro found lost
  have differ (request : Request) (other : request.uri ≠ "note") : found request = lost request := by
    simp only [found, lost, twoLinks, if_neg other]
  have assembles : (always Assembly.link).Assembles (.stateless found) framedPage ()
      (.ok "text/html" (Utf8.encode "<top><note>".toList)) () (.make "page")
      [.select Assembly.link ["frame"]] ⟨"<top><note>", .utf8⟩ :=
    assembles_always rfl (by decide +kernel) rfl (by decide +kernel) (by decide +kernel)
      (by decide +kernel)
  obtain ⟨-, -, -, -, contained⟩ :=
    process_contained (always Assembly.link) framedPage differ (by decide +kernel) assembles
  refine ⟨by decide +kernel, by decide +kernel, ?_⟩
  have block : ∃ seg ∈ segments [.select Assembly.link ["frame"]] "<top><note>",
      seg.text = "<top>" ∧ ∀ request ∈ ((always Assembly.link).contribution found framedPage
        (.make "page") seg).requests, request.uri ≠ "note" := by
    decide +kernel
  obtain ⟨seg, member, text, avoids⟩ := block
  exact ⟨seg, member, text, contained seg member (.inl avoids)⟩

end Engine

end Transclusion
