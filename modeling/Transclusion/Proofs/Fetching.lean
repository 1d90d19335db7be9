import Transclusion.Proofs.Chunking

/-!
# Two ways to read content

The content of a fetched resource is taken out of the response, while that of the first response is
read in place. Both go through the same checks in the same order, so a response is read in both ways
or refused in both ways for the same reason. Reading in place changes the response as little as it
can: it swaps the source and, if it succeeds, tells the length.

## Main results

`fetch_reads_as_buffer`: fetching a resource comes to what reading its response in place comes to.
-/

namespace Transclusion.ContentReader

variable {σ : Type} {c : ContentReader} {r : Response}

/-- A fetch is one request, whatever becomes of it. -/
theorem fetch_apply (c : ContentReader) (o : Origin σ) (r : Request) (s : σ) :
    c.fetch o r s = ⟨(o.reply s r).1.bind c.contentOf, [r], (o.reply s r).2⟩ := rfl

/-- The content of a referenced resource is read as that of the first response is read in place. -/
theorem contentOf_eq_buffer (c : ContentReader) (content : r.hasContent = true) :
    c.contentOf r = (c.buffer r).1.map (·.text) := by
  unfold contentOf buffer
  simp only [content, Bool.not_true, Bool.false_eq_true, if_false]
  cases c.charsetOf r with
  | error failure => rfl
  | ok charset =>
    cases c.checkDeclared r with
    | error failure => rfl
    | ok =>
      cases r.source with
      | none => rfl
      | some source =>
        simp only [Bind.bind, Except.bind]
        cases (source.readBounded c.maxLength).1 <;> rfl

/-- What reading the content of a response comes to: its charset and its bytes, or the first reason
why there are none to be had. The bytes before a fault count as well, however they are cut. -/
inductive Reads (c : ContentReader) (r : Response) : Except FetchFailure (Charset × Bytes) → Prop where
  | unknown (missing : Charset.lookup? (r.charset.getD c.defaultCharset) = none) :
      Reads c r (.error (.unknownCharset (r.charset.getD c.defaultCharset)))
  | declared {charset : Charset} {n : Nat}
      (known : Charset.lookup? (r.charset.getD c.defaultCharset) = some charset)
      (stated : r.length = some n) (exceeds : c.maxLength < n) :
      Reads c r (.error (.tooLarge c.maxLength))
  | long {charset : Charset} {bytes : Bytes} {fault : Option ReadFault}
      (known : Charset.lookup? (r.charset.getD c.defaultCharset) = some charset)
      (within : ∀ n, r.length = some n → n ≤ c.maxLength)
      (drained : r.source.map Source.drain = some (bytes, fault))
      (exceeds : c.maxLength < bytes.length) : Reads c r (.error (.tooLarge c.maxLength))
  | broken {charset : Charset} {bytes : Bytes} {fault : ReadFault}
      (known : Charset.lookup? (r.charset.getD c.defaultCharset) = some charset)
      (within : ∀ n, r.length = some n → n ≤ c.maxLength)
      (drained : r.source.map Source.drain = some (bytes, some fault))
      (fits : bytes.length ≤ c.maxLength) : Reads c r (.error (.unreadable fault.message))
  | whole {charset : Charset} {bytes : Bytes} (readable : c.Readable r charset bytes) :
      Reads c r (.ok (charset, bytes))

/-- What a response becomes when its content is read in place: the bytes take the place of the
source, or nothing but the source is another one. -/
inductive Becomes (r : Response) : Except FetchFailure (Charset × Bytes) → Response → Prop where
  | read (charset : Charset) (bytes : Bytes) : Becomes r (.ok (charset, bytes))
      { r with length := some bytes.length, source := some (.buffered bytes) }
  | refused (failure : FetchFailure) (source : Option Source) :
      Becomes r (.error failure) { r with source := source }

def textOf (content : Charset × Bytes) : String := String.ofList (content.1.decode content.2)

/-- Reading in place follows the rules. -/
theorem exists_reads (c : ContentReader) (content : r.hasContent = true) :
    ∃ result, c.Reads r result ∧
      (c.buffer r).1 = result.map (fun content => ⟨textOf content, content.1⟩) ∧
      Becomes r result (c.buffer r).2 := by
  -- The cases are the checks, in the order in which they are made.
  cases known : Charset.lookup? (r.charset.getD c.defaultCharset) with
  | none =>
    have refused : c.charsetOf r = .error (.unknownCharset (r.charset.getD c.defaultCharset)) := by
      simp [charsetOf, known]
    unfold buffer
    rw [refused]
    exact ⟨_, .unknown known, rfl, .refused _ r.source⟩
  | some charset =>
    have found := (c.charsetOf_eq_ok_iff r charset).2 known
    by_cases within : ∀ n, r.length = some n → n ≤ c.maxLength
    · have allowed := (c.checkDeclared_eq_ok_iff r).2 within
      obtain ⟨source, present⟩ := Option.isSome_iff_exists.1 (Bool.and_eq_true_iff.1 content).2
      have whole : r.source.map Source.drain = some source.drain := by rw [present]; rfl
      have told := source.readBounded_describes c.maxLength
      unfold buffer
      rw [found, allowed, present]
      cases outcome : (source.readBounded c.maxLength).1 with
      | complete bytes =>
        rw [outcome] at told
        have readable : c.Readable r charset bytes :=
          ⟨known, within, whole.trans (congrArg some told.1), told.2⟩
        simp only [outcome]
        exact ⟨_, .whole readable, rfl, .read charset bytes⟩
      | exceeded rest =>
        rw [outcome] at told
        simp only [outcome]
        exact ⟨_, .long known within whole told.2, rfl, .refused _ (some rest)⟩
      | interrupted rest fault =>
        -- What is too long before the fault is not read as far as the fault.
        have fits := Source.length_le_of_interrupted outcome
        rw [outcome] at told
        have faulty : r.source.map Source.drain = some (source.drain.1, some fault) :=
          whole.trans (congrArg some (Prod.ext rfl told.2))
        simp only [outcome]
        exact ⟨_, .broken known within faulty fits, rfl, .refused _ (some rest)⟩
    · obtain ⟨n, stated, exceeds⟩ : ∃ n, r.length = some n ∧ c.maxLength < n := by
        simpa using within
      have refused : c.checkDeclared r = .error (.tooLarge c.maxLength) := by
        simp [checkDeclared, stated, exceeds]
      unfold buffer
      rw [found, refused]
      exact ⟨_, .declared known stated exceeds, rfl, .refused _ r.source⟩

/-- A response with content is read alike in both ways, or refused in both ways for the same reason,
and either is by the rules. Read in place it holds the bytes that its text comes from. -/
theorem fetch_reads_as_buffer (c : ContentReader) (o : Origin σ) {request : Request} {s next : σ}
    {r : Response} (replied : o.reply s request = (.ok r, next)) (content : r.hasContent = true) :
    ∃ result, c.Reads r result ∧
      c.fetch o request s = ⟨result.map textOf, [request], next⟩ ∧
      (c.buffer r).1 = result.map (fun content => ⟨textOf content, content.1⟩) ∧
      Becomes r result (c.buffer r).2 := by
  obtain ⟨result, reads, buffered, becomes⟩ := c.exists_reads content
  refine ⟨result, reads, ?_, buffered, becomes⟩
  have taken : c.contentOf r = result.map textOf := by
    rw [c.contentOf_eq_buffer content, buffered]
    cases result <;> rfl
  rw [fetch_apply, replied, ← taken]
  rfl

/-- A response that tells a length within the limit, delivers more and breaks off then. -/
def overrun : Response :=
  { Response.make 200 with
    length := some 2
    source := some (.stream [.chunk [0x61, 0x62], .chunk [0x63], .fault ⟨.timedOut, "late"⟩]) }

theorem fetch_reads_as_buffer_of_overrun :
    (Origin.stateless fun _ => .ok overrun).reply () (.make "GET" "page") = (.ok overrun, ()) ∧
      overrun.hasContent = true ∧
      (ContentReader.fetch ⟨2, "UTF-8"⟩ (.stateless fun _ => .ok overrun) (.make "GET" "page")
        ()).value = .error (.tooLarge 2) ∧
      (ContentReader.buffer ⟨2, "UTF-8"⟩ overrun).1 = .error (.tooLarge 2) ∧
      Becomes overrun (.error (.tooLarge 2)) (ContentReader.buffer ⟨2, "UTF-8"⟩ overrun).2 := by
  have replied : (Origin.stateless fun _ => .ok overrun).reply () (.make "GET" "page") =
      (.ok overrun, ()) := rfl
  have content : overrun.hasContent = true := by decide
  obtain ⟨result, -, fetched, buffered, becomes⟩ :=
    fetch_reads_as_buffer ⟨2, "UTF-8"⟩ _ replied content
  have long : (ContentReader.buffer ⟨2, "UTF-8"⟩ overrun).1 = .error (.tooLarge 2) := rfl
  cases result with
  | ok =>
    rw [long] at buffered
    cases buffered
  | error failure =>
    rw [long] at buffered
    cases buffered
    exact ⟨replied, content, congrArg Outcome.value fetched, long, becomes⟩

end Transclusion.ContentReader
