import Transclusion.Content

/-!
# Reading content

A bounded read takes a source apart only as far as it can put it together again: whatever its
outcome, the content that it hands back drains as the source did, and it is complete exactly when
there is no fault and no more than the limit. Reading the content of a response in place inherits
both.

## Main results

`readBounded_describes`: what a bounded read tells about a content, and what it hands back.
`buffer_cases`: when the content of a response can be read, and what becomes of the response.
-/

namespace Transclusion

/-- What a bounded read tells about a content that drains to `whole`: it is complete, too long or
faulty. Unless it is complete, a source that drains to the same is handed back. -/
def BoundedRead.Describes (limit : Nat) (whole : Bytes × Option ReadFault) : BoundedRead → Prop
  | complete bytes => whole = (bytes, none) ∧ bytes.length ≤ limit
  | exceeded rest => rest.drain = whole ∧ limit < whole.1.length
  | interrupted rest fault => rest.drain = whole ∧ whole.2 = some fault

namespace Source

private theorem readItems_describes (limit : Nat) (read : Bytes) (its : List Item)
    (fits : read.length ≤ limit) :
    (readItems limit read its).1.Describes limit (drainItems (.chunk read :: its)) := by
  induction its generalizing read with
  | nil => exact ⟨by simp [drainItems], fits⟩
  | cons item its ih =>
    cases item with
    | fault fault => exact ⟨rfl, rfl⟩
    | chunk bytes =>
      have joined : drainItems (.chunk read :: .chunk bytes :: its) =
          drainItems (.chunk (read ++ bytes) :: its) := by
        simp only [drainItems_chunk, List.append_assoc]
      rw [joined, readItems]
      by_cases exceeds : limit < (read ++ bytes).length
      · rw [if_pos exceeds]
        refine ⟨rfl, ?_⟩
        rw [drainItems_chunk, List.length_append]
        omega
      · rw [if_neg exceeds]
        exact ih (read ++ bytes) (Nat.le_of_not_lt exceeds)

theorem readBounded_describes (limit : Nat) (source : Source) :
    (source.readBounded limit).1.Describes limit source.drain := by
  cases source with
  | buffered bytes =>
    rw [drain_buffered, readBounded]
    by_cases exceeds : limit < bytes.length
    · rw [if_pos exceeds]
      exact ⟨drain_buffered bytes, exceeds⟩
    · rw [if_neg exceeds]
      exact ⟨rfl, Nat.le_of_not_lt exceeds⟩
  | stream its => exact readItems_describes limit [] its (Nat.zero_le limit)

/-- A read is complete exactly if the content has no fault and is within the limit. -/
theorem readBounded_eq_complete_iff (limit : Nat) (source : Source) (bytes : Bytes) :
    (source.readBounded limit).1 = .complete bytes ↔
      source.drain = (bytes, none) ∧ bytes.length ≤ limit := by
  have told := source.readBounded_describes limit
  constructor
  · intro complete
    rwa [complete] at told
  · rintro ⟨drained, fits⟩
    rw [drained] at told
    cases outcome : (source.readBounded limit).1 with
    | complete read =>
      rw [outcome] at told
      obtain rfl : bytes = read := (Prod.mk.inj told.1).1
      rfl
    | exceeded rest =>
      rw [outcome] at told
      exact absurd told.2 (Nat.not_lt.2 fits)
    | interrupted rest fault =>
      rw [outcome] at told
      cases told.2

end Source

namespace Response

/-- Whether two responses agree in everything but the content. -/
structure SameHead (r other : Response) : Prop where
  status : r.status = other.status
  text : r.text = other.text
  headers : r.headers = other.headers
  contentType : r.contentType = other.contentType
  charset : r.charset = other.charset

/-- Whether a response delivers the content of another one: the same bytes up to the same fault. The
length may be told where it was not, if the content is at hand. -/
structure SameContent (r other : Response) : Prop where
  drained : r.source.map Source.drain = other.source.map Source.drain
  length : r.length = other.length ∨
    ∃ bytes, r.source = some (.buffered bytes) ∧ r.length = some bytes.length

theorem SameHead.refl (r : Response) : r.SameHead r := ⟨rfl, rfl, rfl, rfl, rfl⟩

theorem SameContent.refl (r : Response) : r.SameContent r := ⟨rfl, .inl rfl⟩

end Response

namespace ContentReader

/-- Whether the content of a response can be read: its charset is known, it is not declared too
long, and it comes to `bytes` without a fault, which are not too many. -/
structure Readable (c : ContentReader) (r : Response) (charset : Charset) (bytes : Bytes) :
    Prop where
  known : Charset.lookup? (r.charset.getD c.defaultCharset) = some charset
  declared : ∀ n, r.length = some n → n ≤ c.maxLength
  drained : r.source.map Source.drain = some (bytes, none)
  fits : bytes.length ≤ c.maxLength

theorem Readable.unique {c : ContentReader} {r : Response} {charset charset' : Charset}
    {bytes bytes' : Bytes} (first : c.Readable r charset bytes)
    (second : c.Readable r charset' bytes') : charset = charset' ∧ bytes = bytes' := by
  have known := Option.some.inj (first.known.symm.trans second.known)
  have drained := Option.some.inj (first.drained.symm.trans second.drained)
  exact ⟨known, (Prod.mk.inj drained).1⟩

theorem charsetOf_eq_ok_iff (c : ContentReader) (r : Response) (charset : Charset) :
    c.charsetOf r = .ok charset ↔
      Charset.lookup? (r.charset.getD c.defaultCharset) = some charset := by
  unfold charsetOf
  dsimp only
  split <;> simp_all

theorem checkDeclared_eq_ok_iff (c : ContentReader) (r : Response) :
    c.checkDeclared r = .ok () ↔ ∀ n, r.length = some n → n ≤ c.maxLength := by
  unfold checkDeclared
  split
  next n declared => simp [declared]
  next undeclared => simp [undeclared]

/-- Reading in place succeeds if the content can be read, and keeps what it has read. Otherwise the
response delivers what it did before. -/
theorem buffer_cases (c : ContentReader) (r : Response) :
    (∃ charset bytes, c.Readable r charset bytes ∧
      c.buffer r = (.ok ⟨String.ofList (charset.decode bytes), charset⟩,
        { r with length := some bytes.length, source := some (.buffered bytes) })) ∨
    (∃ failure answer, c.buffer r = (.error failure, answer) ∧ answer.SameHead r ∧
      answer.SameContent r ∧ ∀ charset bytes, ¬ c.Readable r charset bytes) := by
  unfold buffer
  cases known : c.charsetOf r with
  | error failure =>
    refine .inr ⟨failure, r, rfl, .refl r, .refl r, fun charset bytes readable => ?_⟩
    rw [(charsetOf_eq_ok_iff c r charset).2 readable.known] at known
    cases known
  | ok charset =>
    cases declared : c.checkDeclared r with
    | error failure =>
      refine .inr ⟨failure, r, rfl, .refl r, .refl r, fun charset bytes readable => ?_⟩
      rw [(checkDeclared_eq_ok_iff c r).2 readable.declared] at declared
      cases declared
    | ok =>
      cases content : r.source with
      | none =>
        refine .inr ⟨failureOf r, r, rfl, .refl r, .refl r, fun charset bytes readable => ?_⟩
        have drained := readable.drained
        simp [content] at drained
      | some source =>
        have whole : r.source.map Source.drain = some source.drain := by rw [content]; rfl
        have told := source.readBounded_describes c.maxLength
        have complete : ∀ charset bytes, c.Readable r charset bytes →
            (source.readBounded c.maxLength).1 = .complete bytes := fun charset bytes readable =>
          (source.readBounded_eq_complete_iff c.maxLength bytes).2
            ⟨Option.some.inj (whole.symm.trans readable.drained), readable.fits⟩
        cases outcome : (source.readBounded c.maxLength).1 with
        | complete bytes =>
          rw [outcome] at told
          have readable : c.Readable r charset bytes :=
            ⟨(charsetOf_eq_ok_iff c r charset).1 known, (checkDeclared_eq_ok_iff c r).1 declared,
              whole.trans (congrArg some told.1), told.2⟩
          exact .inl ⟨charset, bytes, readable, by simp only [outcome]⟩
        | exceeded rest =>
          rw [outcome] at told complete
          refine .inr ⟨.tooLarge c.maxLength, { r with source := some rest },
            by simp only [outcome], ⟨rfl, rfl, rfl, rfl, rfl⟩, ⟨?_, .inl rfl⟩,
            fun charset bytes readable => nomatch complete charset bytes readable⟩
          exact (congrArg some told.1).trans whole.symm
        | interrupted rest fault =>
          rw [outcome] at told complete
          refine .inr ⟨.unreadable fault.message, { r with source := some rest },
            by simp only [outcome], ⟨rfl, rfl, rfl, rfl, rfl⟩, ⟨?_, .inl rfl⟩,
            fun charset bytes readable => nomatch complete charset bytes readable⟩
          exact (congrArg some told.1).trans whole.symm

end ContentReader

end Transclusion
