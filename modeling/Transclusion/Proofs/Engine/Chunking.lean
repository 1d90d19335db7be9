import Transclusion.Proofs.Agreement
import Transclusion.Proofs.Assembly.Evaluation
import Transclusion.Proofs.Engine.Delivery

/-!
# Chunking in a run

How an origin cuts its content into chunks never shows, be it the content that is assembled or one
that is fetched for it, at any depth. Every document of a run is read as a whole before it is looked
at, so the same blocks are found in the same texts and the same requests are made for them.

## Main results

`process_alike`: origins that differ in chunks only are asked the same, for the same answer.
-/

namespace Transclusion

variable {σ τ : Type}

namespace Assembly

/-- An assembly that has its content from another origin. -/
def against (a : Assembly σ) (o : Origin τ) : Assembly τ where
  assemblage := a.assemblage
  repository := a.repository
  reader := a.reader
  origin := o
  scheme := a.scheme
  headers := a.headers

section

variable {o : Origin σ} {o' : Origin τ} {expansion : Expansion σ} {expansion' : Expansion τ}
  (blocks : ∀ matcher names m,
    Run.Alike o o' Eq (expansion matcher names m) (expansion' matcher names m))

include blocks

theorem block_alike (entry : PlanEntry) (m : Match) :
    Run.Alike o o' Eq (block expansion entry m) (block expansion' entry m) := by
  cases entry with
  | exclude matcher => exact .pure rfl
  | keep matcher => exact .pure rfl
  | expand matcher names => exact (blocks matcher names m).bind_eq fun text => .pure rfl

theorem fragments_alike (stack : List PlanEntry) (text : String) :
    Run.Alike o o' Eq (fragments expansion stack text) (fragments expansion' stack text) := by
  induction stack generalizing text with
  | nil => exact .pure rfl
  | cons entry rest ih =>
    cases scanned : entry.needsScan with
    | false =>
      rw [fragments_skip _ scanned, fragments_skip _ scanned]
      exact ih text
    | true =>
      rw [fragments_scan _ scanned, fragments_scan _ scanned]
      refine (Run.Alike.gather (fun (gap, m) => ?_) _).bind_eq fun front =>
        (ih _).bind_eq fun last => .pure rfl
      exact (ih gap).bind_eq fun before =>
        (block_alike blocks entry m).bind_eq fun here => .pure rfl

end

theorem expand_alike (a : Assembly σ) (o' : Origin τ) (depth : Nat) (matcher : Matcher)
    (names : List String) (m : Match) :
    Run.Alike a.origin o' Eq (a.expand depth matcher names m)
      ((a.against o').expand depth matcher names m) := by
  induction depth generalizing matcher names m with
  | zero => exact .pure rfl
  | succ depth ih =>
    -- What is wanted of a resource is known before it is fetched, so it is the same.
    have asked : (a.against o').wanted? matcher names m = a.wanted? matcher names m := rfl
    rw [expand_succ, expand_succ, asked]
    cases a.wanted? matcher names m with
    | none => exact .pure rfl
    | some wanted =>
      obtain ⟨request, resolution⟩ := wanted
      refine (a.reader.fetch_alike a.origin o' request).bind_eq fun content => ?_
      cases content with
      | error failure => exact .pure rfl
      | ok content =>
        exact (fragments_alike ih (stackOf resolution) content).bind_eq fun values => .pure rfl

theorem assemble_alike (a : Assembly σ) (o' : Origin τ) (depth : Nat) (plan : List PlanEntry)
    (text : String) :
    Run.Alike a.origin o' Eq (a.assemble depth plan text)
      ((a.against o').assemble depth plan text) :=
  fragments_alike (a.expand_alike o' depth) plan.reverse text

end Assembly

namespace Engine

theorem deliver_alike {r other : Response} (alike : r.Alike other) (charset : Charset)
    (text : String) : (deliver r charset text).Alike (deliver other charset text) := by
  have ⟨status, text, headers, contentType, charset⟩ := alike.head
  unfold deliver
  split
  · exact ⟨⟨status, text, headers, contentType, charset⟩, rfl, rfl⟩
  · exact alike

theorem plan?_alike (e : Engine) (r : Request) (names : List String) {given other : Response}
    (alike : given.Alike other) : e.plan? r names given = e.plan? r names other := by
  unfold plan?
  rw [alike.hasContent_eq, alike.head.contentType]

theorem assembleContent_alike (e : Engine) (o : Origin σ) (o' : Origin τ) (r : Request)
    (assemblage : Assemblage) (entries : List PlanEntry) {given other : Response}
    (alike : given.Alike other) :
    Run.Alike o o' Response.Alike (e.assembleContent o r assemblage entries given)
      (e.assembleContent o' r assemblage entries other) := by
  obtain ⟨told, kept⟩ := e.settings.reader.buffer_alike alike
  unfold assembleContent
  generalize e.settings.reader.buffer given = read at told kept ⊢
  generalize e.settings.reader.buffer other = read' at told kept ⊢
  obtain ⟨outcome, given⟩ := read
  obtain ⟨outcome', other⟩ := read'
  obtain rfl : outcome = outcome' := told
  cases outcome with
  | error failure => exact .pure kept
  | ok decoded =>
    exact ((e.assembly o assemblage r).assemble_alike o' _ entries decoded.text).bind_eq
      fun fragments => .pure (deliver_alike kept decoded.charset _)

/-- Origins that answer every sequence of requests alike, up to the chunks that content comes in,
are asked the same by a run, and the answers are alike: they have the same status, text, headers,
content type, charset and length, and content that drains to the same bytes. -/
theorem process_alike (e : Engine) (o : Origin σ) (o' : Origin τ) (r : Request) {s : σ} {t : τ}
    (alike : o.Alike o' s t) :
    (e.process o r s).value.Alike (e.process o' r t).value ∧
      (e.process o r s).requests = (e.process o' r t).requests := by
  have agree : Run.Alike o o' Response.Alike (e.process o r) (e.process o' r) := by
    refine (Run.Alike.dispatch (e.forwarded r)).bind fun reply reply' alike => ?_
    cases alike with
    | error failure => exact .pure (.refl _)
    | @ok given other alike =>
      dsimp only
      rw [e.plan?_alike _ _ alike]
      split
      next => exact .pure alike
      next assemblage entries _ => exact e.assembleContent_alike o o' _ assemblage entries alike
  obtain ⟨answers, requests, -⟩ := agree s t alike
  exact ⟨answers, requests⟩

/-- One matcher on every page, whose blocks refer to other pages. -/
def frames : Engine where
  repository :=
    { matchers := fun _ _ _ _ => some
        [.make (some "frame") ((Pattern.compile? "<frame src=[a-z]+>").getD default)
          (Pattern.compile? "src=([a-z]+)") []]
      assemblage := fun _ => some (.make "page") }
  settings := default

/-- Two pages with letters of two bytes; the first one refers to the second. -/
def twoPages (source : Bytes → Source) : Origin Unit :=
  .stateless fun r =>
    let text := if r.uri = "page" then "ä<frame src=note>" else "ö"
    .ok { Response.make 200 with
      contentType := some "text/html", source := some (source (Utf8.encode text.toList)) }

/-- A stream that starts with an empty chunk and has a chunk for each byte. -/
def bytewise (bytes : Bytes) : Source := .stream (([] :: bytes.map ([·])).map .chunk)

/-- A request for the first page with its frames. -/
def framedPage : Request :=
  { Request.make "GET" "page" with headers := ⟨[("X-Filter", "frame")]⟩ }

/-- Letters whose bytes come in two chunks are read as if they had come in one. -/
theorem process_alike_bytewise :
    (frames.process (twoPages bytewise) framedPage ()).value.source =
      some (.buffered (Utf8.encode "äö".toList)) ∧
    (frames.process (twoPages bytewise) framedPage ()).value.Alike
      (frames.process (twoPages .buffered) framedPage ()).value ∧
    (frames.process (twoPages bytewise) framedPage ()).requests =
      (frames.process (twoPages .buffered) framedPage ()).requests := by
  have drained (bytes : Bytes) : (bytewise bytes).drain = (Source.buffered bytes).drain := by
    rw [bytewise, Source.drain_chunks, Source.drain_buffered, List.flatten_cons, List.nil_append,
      ← List.flatMap_def, List.flatMap_singleton']
  refine ⟨by decide +kernel, process_alike frames _ _ _ (Origin.alike_stateless fun r => ?_)⟩
  exact .ok ⟨⟨rfl, rfl, rfl, rfl, rfl⟩, rfl, congrArg some (drained _)⟩

end Engine

end Transclusion
