/-!
# Bodies and bounded reading

The content of a response is either a buffered list of bytes or a stream of items, each a chunk of
bytes or a fault. `Source.readBounded` reads a source into one buffer without ever holding more than
one chunk past its limit; whatever it took is handed back in front of what it did not, so that the
content can still be delivered as it came.

## Main results

`Source.drain_buffered`, `Source.drain_stream`: what a reader of a source gets to see.
-/

namespace Transclusion

/-- Raw content. -/
abbrev Bytes := List UInt8

/-- Kinds of faults that a reader tells apart. -/
inductive FaultKind where
  | connectionReset
  | unexpectedEnd
  | timedOut
  | brokenPipe
  | other
deriving DecidableEq, Repr, Inhabited

structure ReadFault where
  kind : FaultKind
  message : String
deriving DecidableEq, Repr, Inhabited

/-- One step of a stream. -/
inductive Item where
  | chunk (bytes : Bytes)
  | fault (fault : ReadFault)
deriving DecidableEq, Repr, Inhabited

/-- Where the content of a response comes from. -/
inductive Source where
  | buffered (bytes : Bytes)
  | stream (items : List Item)
deriving DecidableEq, Repr, Inhabited

inductive BoundedRead where
  /-- The whole content, within the limit. -/
  | complete (bytes : Bytes)
  /-- More than the limit; the source comes back in full. -/
  | exceeded (rest : Source)
  /-- The source failed part-way; what was read is replayed before the same fault. -/
  | interrupted (rest : Source) (fault : ReadFault)
deriving DecidableEq, Repr

namespace Source

/-- Whether the content is at hand without draining a stream. -/
def isBuffered : Source → Bool
  | buffered _ => true
  | stream _ => false

/-- A short description for diagnostics. -/
def describe : Source → String
  | buffered bytes => s!"Buffered({bytes.length} bytes)"
  | stream _ => "Stream"

/-- The items that a reader of the source meets, in order. -/
def items : Source → List Item
  | buffered bytes => [.chunk bytes]
  | stream items => items

/-- What draining a list of items gives: the bytes before the first fault, and that fault if any. -/
def drainItems : List Item → Bytes × Option ReadFault
  | [] => ([], none)
  | .chunk bytes :: rest => let (more, fault) := drainItems rest; (bytes ++ more, fault)
  | .fault fault :: _ => ([], some fault)

/-- The bytes of a source up to its first fault, and that fault if there is one. -/
def drain (s : Source) : Bytes × Option ReadFault := drainItems s.items

/-- Read the items of a stream after the bytes `read`; the number counts the items taken. -/
def readItems (limit : Nat) (read : Bytes) : List Item → BoundedRead × Nat
  | [] => (.complete read, 0)
  | .fault fault :: _ => (.interrupted (.stream [.chunk read, .fault fault]) fault, 1)
  | .chunk bytes :: rest =>
    -- The chunk that crosses the limit has been taken, so it goes back with what was read before.
    if limit < (read ++ bytes).length then
      (.exceeded (.stream (.chunk (read ++ bytes) :: rest)), 1)
    else
      let (outcome, taken) := readItems limit (read ++ bytes) rest
      (outcome, taken + 1)

/-- Read at most `limit` bytes into one buffer, and count the stream items taken on the way. -/
def readBounded (limit : Nat) : Source → BoundedRead × Nat
  | buffered bytes =>
    if limit < bytes.length then (.exceeded (.buffered bytes), 0) else (.complete bytes, 0)
  | stream items => readItems limit [] items

theorem drain_buffered (bytes : Bytes) : (buffered bytes).drain = (bytes, none) := by
  simp [drain, items, drainItems]

theorem drain_stream (its : List Item) : (stream its).drain = drainItems its := rfl

theorem drainItems_chunk (bytes : Bytes) (rest : List Item) :
    drainItems (.chunk bytes :: rest) = (bytes ++ (drainItems rest).1, (drainItems rest).2) := rfl

end Source

end Transclusion
