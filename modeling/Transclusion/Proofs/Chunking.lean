import Transclusion.Proofs.Reading

/-!
# Chunking

How a stream is cut into chunks never shows in what a reader makes of it. A bounded read comes to an
end at another chunk when the chunks are others, but whether it is complete, too long or faulty
depends on the bytes up to the first fault only, and so do the bytes that it gives or hands back.

## Main results

`Source.readBounded_alike`: sources that drain alike are read alike.
`ContentReader.contentOf_eq`, `ContentReader.buffer_alike`: so is the content of responses.
-/

namespace Transclusion

/-- Whether two bounded reads come to the same: the same bytes, or sources that drain alike. -/
inductive BoundedRead.Alike : BoundedRead → BoundedRead → Prop
  | complete (bytes : Bytes) : Alike (.complete bytes) (.complete bytes)
  | exceeded {rest rest' : Source} (drained : rest.drain = rest'.drain) :
      Alike (.exceeded rest) (.exceeded rest')
  | interrupted {rest rest' : Source} (drained : rest.drain = rest'.drain) (fault : ReadFault) :
      Alike (.interrupted rest fault) (.interrupted rest' fault)

/-- Of one content there is only one thing to tell, if a read that meets a fault has not met the
limit before. -/
theorem BoundedRead.Describes.alike {limit : Nat} {whole : Bytes × Option ReadFault}
    {outcome outcome' : BoundedRead} (told : outcome.Describes limit whole)
    (told' : outcome'.Describes limit whole)
    (within : ∀ {rest fault}, outcome = .interrupted rest fault → whole.1.length ≤ limit)
    (within' : ∀ {rest fault}, outcome' = .interrupted rest fault → whole.1.length ≤ limit) :
    outcome.Alike outcome' := by
  cases outcome with
  | complete bytes =>
    obtain ⟨rfl, fits⟩ := told
    cases outcome' with
    | complete bytes' =>
      cases told'.1
      exact .complete bytes
    | exceeded rest' => exact absurd told'.2 (Nat.not_lt.2 fits)
    | interrupted rest' fault' => cases told'.2
  | exceeded rest =>
    obtain ⟨drained, exceeds⟩ := told
    cases outcome' with
    | complete bytes' =>
      obtain ⟨rfl, fits⟩ := told'
      exact absurd exceeds (Nat.not_lt.2 fits)
    | exceeded rest' => exact .exceeded (drained.trans told'.1.symm)
    | interrupted rest' fault' => exact absurd exceeds (Nat.not_lt.2 (within' rfl))
  | interrupted rest fault =>
    obtain ⟨drained, faulty⟩ := told
    cases outcome' with
    | complete bytes' =>
      obtain ⟨rfl, fits⟩ := told'
      cases faulty
    | exceeded rest' => exact absurd told'.2 (Nat.not_lt.2 (within rfl))
    | interrupted rest' fault' =>
      obtain rfl := Option.some.inj (faulty.symm.trans told'.2)
      exact .interrupted (drained.trans told'.1.symm) fault

namespace Source

private theorem readItems_interrupted {limit : Nat} {read : Bytes} {its : List Item} {rest : Source}
    {fault : ReadFault} (fits : read.length ≤ limit)
    (interrupted : (readItems limit read its).1 = .interrupted rest fault) :
    (drainItems (.chunk read :: its)).1.length ≤ limit := by
  induction its generalizing read with
  | nil => cases interrupted
  | cons item its ih =>
    cases item with
    | fault other =>
      rw [drainItems_chunk, drainItems, List.append_nil]
      exact fits
    | chunk bytes =>
      rw [readItems] at interrupted
      by_cases exceeds : limit < (read ++ bytes).length
      · rw [if_pos exceeds] at interrupted
        cases interrupted
      · rw [if_neg exceeds] at interrupted
        have within := ih (Nat.le_of_not_lt exceeds) interrupted
        simpa only [drainItems_chunk, List.append_assoc] using within

theorem length_le_of_interrupted {limit : Nat} {source rest : Source} {fault : ReadFault}
    (interrupted : (source.readBounded limit).1 = .interrupted rest fault) :
    source.drain.1.length ≤ limit := by
  cases source with
  | buffered bytes =>
    rw [readBounded] at interrupted
    split at interrupted <;> cases interrupted
  | stream its => exact readItems_interrupted (Nat.zero_le limit) interrupted

theorem readBounded_alike (limit : Nat) {source other : Source}
    (drained : source.drain = other.drain) :
    (source.readBounded limit).1.Alike (other.readBounded limit).1 := by
  have told' := other.readBounded_describes limit
  have within' := @length_le_of_interrupted limit other
  rw [← drained] at told' within'
  exact (source.readBounded_describes limit).alike told' length_le_of_interrupted within'

/-- Chunks without a fault drain to what they come to together. -/
theorem drain_chunks (chunks : List Bytes) :
    (stream (chunks.map .chunk)).drain = (chunks.flatten, none) := by
  rw [drain_stream]
  induction chunks with
  | nil => rfl
  | cons bytes chunks ih => rw [List.map_cons, drainItems_chunk, ih, List.flatten_cons]

end Source

namespace Response

/-- Whether two responses differ in nothing but the chunks that their content comes in. -/
structure Alike (r other : Response) : Prop where
  head : r.SameHead other
  length : r.length = other.length
  drained : r.source.map Source.drain = other.source.map Source.drain

theorem Alike.refl (r : Response) : r.Alike r := ⟨.refl r, rfl, rfl⟩

theorem Alike.hasContent_eq {r other : Response} (alike : r.Alike other) :
    r.hasContent = other.hasContent := by
  have present := congrArg Option.isSome alike.drained
  rw [Option.isSome_map, Option.isSome_map] at present
  rw [hasContent, hasContent, isSuccess, isSuccess, alike.head.status, present]

theorem Alike.sources {r other : Response} (alike : r.Alike other) :
    Option.Rel (fun source source' => source.drain = source'.drain) r.source other.source := by
  have drained := alike.drained
  cases content : r.source <;> cases content' : other.source <;> rw [content, content'] at drained
  case none.none => exact .none
  case none.some | some.none => cases drained
  case some.some source source' => exact .some (Option.some.inj drained)

end Response

namespace ContentReader

variable {r other : Response}

theorem charsetOf_eq (c : ContentReader) (alike : r.Alike other) :
    c.charsetOf r = c.charsetOf other := by
  unfold charsetOf
  rw [alike.head.charset]

theorem checkDeclared_eq (c : ContentReader) (alike : r.Alike other) :
    c.checkDeclared r = c.checkDeclared other := by
  unfold checkDeclared
  rw [alike.length]

theorem failureOf_eq (alike : r.Alike other) : failureOf r = failureOf other := by
  rw [failureOf, failureOf, alike.head.status, alike.head.text]

theorem contentOf_eq (c : ContentReader) (alike : r.Alike other) :
    c.contentOf r = c.contentOf other := by
  have sources := alike.sources
  unfold contentOf
  rw [alike.hasContent_eq, c.charsetOf_eq alike, c.checkDeclared_eq alike, failureOf_eq alike]
  generalize r.source = content at sources ⊢
  generalize other.source = content' at sources ⊢
  cases sources with
  | none => rfl
  | @some source source' drained =>
    have read := Source.readBounded_alike c.maxLength drained
    dsimp only
    generalize (source.readBounded c.maxLength).1 = outcome at read ⊢
    generalize (source'.readBounded c.maxLength).1 = outcome' at read ⊢
    cases read <;> rfl

/-- Reading in place gives the same text, and responses that still differ in chunks at most. -/
theorem buffer_alike (c : ContentReader) (alike : r.Alike other) :
    (c.buffer r).1 = (c.buffer other).1 ∧ (c.buffer r).2.Alike (c.buffer other).2 := by
  have sources := alike.sources
  have ⟨status, text, headers, contentType, charset⟩ := alike.head
  unfold buffer
  rw [c.charsetOf_eq alike, c.checkDeclared_eq alike, failureOf_eq alike]
  cases c.charsetOf other with
  | error failure => exact ⟨rfl, alike⟩
  | ok found =>
    cases c.checkDeclared other with
    | error failure => exact ⟨rfl, alike⟩
    | ok =>
      generalize r.source = content at sources ⊢
      generalize other.source = content' at sources ⊢
      cases sources with
      | none => exact ⟨rfl, alike⟩
      | @some source source' drained =>
        have read := Source.readBounded_alike c.maxLength drained
        dsimp only
        generalize (source.readBounded c.maxLength).1 = outcome at read ⊢
        generalize (source'.readBounded c.maxLength).1 = outcome' at read ⊢
        -- What has been read is the content from now on, and its length is that of the bytes.
        cases read with
        | complete bytes => exact ⟨rfl, ⟨status, text, headers, contentType, charset⟩, rfl, rfl⟩
        | exceeded drained =>
          exact ⟨rfl, ⟨status, text, headers, contentType, charset⟩, alike.length,
            congrArg some drained⟩
        | interrupted drained fault =>
          exact ⟨rfl, ⟨status, text, headers, contentType, charset⟩, alike.length,
            congrArg some drained⟩

end ContentReader

end Transclusion
