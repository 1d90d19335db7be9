import Transclusion.Charset.Codec

/-!
# Reading what a codec has written

The bytes that a codec writes for a text need not be read as this text: some characters share their
bytes with others. But what is read is written as the same bytes. It is enough that this is so for
each character, with anything after it, if the reader goes along with the states of the writer.

## Main results

`Codec.Follows.encode?_decode`: bytes that a text is written as are written again after reading.
-/

namespace Transclusion.Codec

variable {k : Codec} {bytes : Bytes} {text : List Char}

theorem decodeFrom_nil (k : Codec) (s : k.Reading) : k.decodeFrom s [] = [] := by
  rw [decodeFrom]

theorem decodeFrom_cons (k : Codec) (s : k.Reading) (b : UInt8) (rest : Bytes) :
    k.decodeFrom s (b :: rest) = (k.read s b rest).2.1 ++
      k.decodeFrom (k.read s b rest).1 (k.read s b rest).2.2 := by
  rw [decodeFrom]

/-- Whether the bytes of each character are read, in the state that the reader has then, as some
character that is written in the same way. -/
structure Follows (k : Codec) (follow : k.Writing → k.Reading) : Prop where
  start : follow k.writing = k.reading
  again {s next : k.Writing} {x : Char} {bytes : Bytes}
    (written : k.write? s x = some (next, bytes)) :
    ∃ y, k.write? s y = some (next, bytes) ∧ ∀ rest,
      k.decodeFrom (follow s) (bytes ++ rest) = y :: k.decodeFrom (follow next) rest
  ending (s : k.Writing) : k.decodeFrom (follow s) (k.finish s) = []

namespace Follows

variable {follow : k.Writing → k.Reading}

theorem encodeFrom?_decodeFrom (follows : k.Follows follow) {s : k.Writing}
    (written : k.encodeFrom? s text = some bytes) :
    k.encodeFrom? s (k.decodeFrom (follow s) bytes) = some bytes := by
  -- The text is gone through as it was written, so the states stay together.
  induction text generalizing s bytes with
  | nil =>
    obtain rfl := Option.some.inj written
    rw [follows.ending s]
    rfl
  | cons x text ih =>
    simp only [encodeFrom?, Option.bind_eq_bind, Option.bind_eq_some_iff, Option.pure_def,
      Option.some.injEq] at written
    obtain ⟨⟨next, first⟩, here, others, later, rfl⟩ := written
    obtain ⟨y, same, read⟩ := follows.again here
    rw [read others]
    simp [encodeFrom?, same, ih later]

theorem encode?_decode (follows : k.Follows follow) (written : k.encode? text = some bytes) :
    k.encode? (k.decode bytes) = some bytes := by
  rw [encode?, decode, ← follows.start]
  exact follows.encodeFrom?_decodeFrom written

end Follows

/-- Without states, all that matters is what is read off the bytes of one character. -/
theorem follows_stateless {read : UInt8 → Bytes → List Char × Bytes}
    {shrinks : ∀ b rest, (read b rest).2.length ≤ rest.length} {write? : Char → Option Bytes}
    (again : ∀ x bytes, write? x = some bytes → ∃ y, write? y = some bytes ∧
      ∃ b more, bytes = b :: more ∧ ∀ rest, read b (more ++ rest) = ([y], rest)) :
    (stateless read shrinks write?).Follows fun _ => () where
  start := rfl
  again {s next x bytes} written := by
    obtain ⟨out, found, same⟩ := Option.map_eq_some_iff.1 written
    cases same
    obtain ⟨y, same, b, more, rfl, reads⟩ := again x _ found
    refine ⟨y, Option.map_eq_some_iff.2 ⟨_, same, rfl⟩, fun rest => ?_⟩
    have step := decodeFrom_cons (stateless read shrinks write?) () b (more ++ rest)
    have taken : (stateless read shrinks write?).read () b (more ++ rest) = ((), [y], rest) :=
      congrArg (Prod.mk ()) (reads rest)
    rw [taken] at step
    exact step
  ending _ := decodeFrom_nil (stateless read shrinks write?) ()

end Transclusion.Codec
