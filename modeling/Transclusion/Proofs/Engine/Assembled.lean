import Transclusion.Proofs.Engine.Delivery

/-!
# Assembled content

A run either assembles the content of the first response or leaves this response alone. It assembles
the content if there is a plan for it and all of it can be read, and then the requests that follow
the first one are those of the assembly.

## Main results

`process_of_assembles`, `process_of_unassembled`: what a run comes to in either case.
-/

namespace Transclusion.Engine

variable {σ : Type} {e : Engine} {o : Origin σ} {r : Request} {s next : σ} {given : Response}
  {assemblage : Assemblage} {plan : List PlanEntry} {decoded : Decoded}

/-- Whether a run for `r` from the state `s` on assembles content: the origin gives a response and
stays in the state `next`, there are an assemblage and a plan for the response, and its content can
be read. -/
structure Assembles (e : Engine) (o : Origin σ) (r : Request) (s : σ) (given : Response) (next : σ)
    (assemblage : Assemblage) (plan : List PlanEntry) (decoded : Decoded) : Prop where
  replied : o.reply s (e.forwarded r) = (.ok given, next)
  planned : e.plan? (e.forwarded r) (e.asked r) given = some (assemblage, plan)
  read : (e.settings.reader.buffer given).1 = .ok decoded

/-- The assembly of a run that assembles content. -/
def assembling (e : Engine) (o : Origin σ) (r : Request) (assemblage : Assemblage)
    (plan : List PlanEntry) (decoded : Decoded) : Run σ (List String) :=
  (e.assembly o assemblage (e.forwarded r)).assemble e.settings.maxDepth plan decoded.text

/-- Content that is assembled has been read as a whole, within the limit. It is at hand from then
on, in place of where it came from. -/
theorem Assembles.readable (assembles : e.Assembles o r s given next assemblage plan decoded) :
    ∃ bytes, e.settings.reader.Readable given decoded.charset bytes ∧
      decoded.text = String.ofList (decoded.charset.decode bytes) ∧
      (e.settings.reader.buffer given).2 =
        { given with length := some bytes.length, source := some (.buffered bytes) } := by
  have read := assembles.read
  rcases e.settings.reader.buffer_cases given with
    ⟨charset, bytes, readable, buffered⟩ | ⟨failure, kept, buffered, -⟩
  · rw [buffered] at read ⊢
    obtain rfl := Except.ok.inj read
    exact ⟨bytes, readable, rfl, rfl⟩
  · rw [buffered] at read
    cases read

theorem process_of_assembles
    (assembles : e.Assembles o r s given next assemblage plan decoded) :
    e.process o r s =
      let outcome := e.assembling o r assemblage plan decoded next
      ⟨deliver (e.settings.reader.buffer given).2 decoded.charset (String.join outcome.value),
        e.forwarded r :: outcome.requests, outcome.state⟩ := by
  have ⟨replied, planned, read⟩ := assembles
  rw [process_of_ok replied, answer, planned]
  dsimp only
  unfold assembleContent
  generalize e.settings.reader.buffer given = buffered at read ⊢
  obtain ⟨outcome, kept⟩ := buffered
  obtain rfl : outcome = .ok decoded := read
  simp only [assembling, Run.bind_apply, Run.pure_apply, List.append_nil]

/-- The response of a run that assembles content delivers the assembled text, or what it is made of
if its charset cannot represent the text. -/
theorem source_of_assembles (assembles : e.Assembles o r s given next assemblage plan decoded)
    {bytes : Bytes} (body : given.source.map Source.drain = some (bytes, none)) :
    (e.process o r s).value.source = some (.buffered ((decoded.charset.encode?
      (String.join (e.assembling o r assemblage plan decoded next).value).toList).getD bytes)) := by
  obtain ⟨bytes', readable, -, kept⟩ := assembles.readable
  obtain rfl : bytes = bytes' := (Prod.mk.inj (Option.some.inj (body.symm.trans readable.drained))).1
  rw [process_of_assembles assembles, kept]
  dsimp only
  unfold deliver
  split
  next out encoded => rw [encoded, Option.getD_some]
  next unencodable => rw [unencodable, Option.getD_none]

/-- The response of a run that assembles content is the one of the origin with its content in memory
and the length of that. -/
theorem value_of_assembles (assembles : e.Assembles o r s given next assemblage plan decoded) :
    ∃ out : Bytes, (e.process o r s).value =
      { given with length := some out.length, source := some (.buffered out) } := by
  obtain ⟨bytes, -, -, kept⟩ := assembles.readable
  rw [process_of_assembles assembles, kept]
  dsimp only
  unfold deliver
  split
  next out encoded => exact ⟨out, rfl⟩
  next unencodable => exact ⟨bytes, rfl⟩

/-- A run that assembles nothing asks for nothing but what it is a run for. -/
theorem process_of_unassembled
    (unassembled : ∀ given next assemblage plan decoded,
      ¬ e.Assembles o r s given next assemblage plan decoded) :
    (e.process o r s).requests = [e.forwarded r] := by
  cases replied : o.reply s (e.forwarded r) with
  | mk reply next =>
    cases reply with
    | error failure => rw [process_of_error replied]
    | ok given =>
      rw [process_of_ok replied, answer]
      cases planned : e.plan? (e.forwarded r) (e.asked r) given with
      | none => rfl
      | some chosen =>
        obtain ⟨assemblage, plan⟩ := chosen
        have unread := unassembled given next assemblage plan
        dsimp only
        unfold assembleContent
        cases read : e.settings.reader.buffer given with
        | mk outcome kept =>
          cases outcome with
          | error failure => rfl
          | ok decoded => exact absurd ⟨replied, planned, by rw [read]⟩ (unread decoded)

/-- An engine with one matcher for the blocks of every page. -/
def always (m : Matcher) : Engine where
  repository := ⟨fun _ _ _ _ => some [m], fun _ => some (.make "page")⟩
  settings := default

theorem assembles_always {m : Matcher} {names : List String} (unnamed : m.name = none)
    (asked : (always m).asked r = names) (asks : names.isEmpty = false)
    (content : given.hasContent = true)
    (replied : o.reply s ((always m).forwarded r) = (.ok given, next))
    (read : ((always m).settings.reader.buffer given).1 = .ok decoded) :
    (always m).Assembles o r s given next (.make "page") [.select m names] decoded := by
  refine ⟨replied, ?_, read⟩
  have found : [m].find? Matcher.isUnnamed = some m := by
    simp only [List.find?_cons, Matcher.isUnnamed, unnamed, Option.isNone_none]
  rw [asked, plan?_eq_some_iff]
  refine ⟨?_, content, rfl, ?_⟩
  · rintro rfl
    cases asks
  · simp only [Repository.resolve, always, Resolution.resolve, found, asks, Bool.false_eq_true,
      if_false]
    rfl

end Transclusion.Engine
