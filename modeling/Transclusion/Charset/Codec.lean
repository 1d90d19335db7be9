import Transclusion.Charset.Utf8

/-!
# Codecs

A charset of several bytes per character, as a pair of machines. One takes characters off the front
of bytes until none are left; the other writes character by character. What is read can depend on
bytes that came before, and what is written on characters that came before.
-/

namespace Transclusion

structure Codec where
  Reading : Type
  Writing : Type
  /-- How a text begins. -/
  reading : Reading
  writing : Writing
  /-- The characters that are read off bytes, given the first byte, and the bytes that are left. -/
  read : Reading → UInt8 → Bytes → Reading × List Char × Bytes
  shrinks : ∀ s b rest, (read s b rest).2.2.length ≤ rest.length
  /-- The bytes of a character, if there are any. -/
  write? : Writing → Char → Option (Writing × Bytes)
  /-- What is written after the last character. -/
  finish : Writing → Bytes

namespace Codec

def decodeFrom (k : Codec) (s : k.Reading) : Bytes → List Char
  | [] => []
  | b :: rest =>
    let next := k.read s b rest
    next.2.1 ++ k.decodeFrom next.1 next.2.2
termination_by bytes => bytes.length
decreasing_by exact Nat.lt_succ_of_le (k.shrinks s b rest)

def decode (k : Codec) (bytes : Bytes) : List Char := k.decodeFrom k.reading bytes

def encodeFrom? (k : Codec) (s : k.Writing) : List Char → Option Bytes
  | [] => some (k.finish s)
  | c :: cs => do
    let (next, bytes) ← k.write? s c
    return bytes ++ (← k.encodeFrom? next cs)

def encode? (k : Codec) (cs : List Char) : Option Bytes := k.encodeFrom? k.writing cs

/-- A charset in which nothing depends on what came before. -/
def stateless (read : UInt8 → Bytes → List Char × Bytes)
    (shrinks : ∀ b rest, (read b rest).2.length ≤ rest.length) (write? : Char → Option Bytes) :
    Codec where
  Reading := Unit
  Writing := Unit
  reading := ()
  writing := ()
  read _ b rest := ((), read b rest)
  shrinks _ := shrinks
  write? _ c := (write? c).map ((), ·)
  finish _ := []

end Codec

/-- Read the second byte of a pair. If the pair stands for nothing, a second byte that is ASCII is
left to stand for itself. -/
def readPair (chars? : UInt8 → Option (List Char)) : Bytes → List Char × Bytes
  | [] => ([Utf8.replacement], [])
  | b :: rest =>
    match chars? b with
    | some cs => (cs, rest)
    | none => ([Utf8.replacement], if b.toNat < 0x80 then b :: rest else rest)

theorem length_readPair_le (chars? : UInt8 → Option (List Char)) (bytes : Bytes) :
    (readPair chars? bytes).2.length ≤ bytes.length := by
  unfold readPair
  split
  next => simp
  next =>
    split
    next => simp
    next => dsimp only; split <;> simp

end Transclusion
