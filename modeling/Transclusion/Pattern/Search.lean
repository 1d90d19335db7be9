import Transclusion.Pattern.Program

/-!
# Searching

A program is run over a text for all its ways at once: a list of threads, the preferred ones
first, is moved along character by character. At one position no address is visited twice, since
the thread that came first is the preferred one; so a search takes time proportional to the text
and the program.
-/

namespace Transclusion.Pattern

/-- The positions remembered so far, by slot. -/
abbrev Slots := Array (Option Nat)

/-- A way of matching under way: where it stands in the program and what it remembers. -/
structure Thread where
  address : Nat
  slots : Slots
deriving Inhabited

namespace Program

/-- Follow forks, conditions and savings from the pending threads, in order of preference, up to the
instructions that take a character or accept. The fuel bounds the number of threads looked at. -/
def settle (p : Program) (pos : Nat) (before after : Option Char) :
    Nat → List Thread → Array Bool → List Thread → List Thread
  | 0, _, _, settled => settled.reverse
  | _ + 1, [], _, settled => settled.reverse
  | fuel + 1, t :: pending, seen, settled =>
    -- A preferred thread has been here, with all that can follow.
    if seen.getD t.address true then settle p pos before after fuel pending seen settled
    else
      let seen := seen.setIfInBounds t.address true
      match p.code[t.address]? with
      | none => settle p pos before after fuel pending seen settled
      | some instr =>
        match instr with
        | .fork first second =>
          settle p pos before after fuel (⟨first, t.slots⟩ :: ⟨second, t.slots⟩ :: pending) seen
            settled
        | .check anchor next =>
          if anchor.holds before after then
            settle p pos before after fuel (⟨next, t.slots⟩ :: pending) seen settled
          else settle p pos before after fuel pending seen settled
        | .save slot next =>
          settle p pos before after fuel
            (⟨next, t.slots.setIfInBounds slot (some pos)⟩ :: pending) seen settled
        | .take .. => settle p pos before after fuel pending seen (t :: settled)
        | .accept => settle p pos before after fuel pending seen (t :: settled)

/-- The threads preferred to the first accepting one, and the slots of that one. -/
def untilAccept (p : Program) : List Thread → List Thread × Option Slots
  | [] => ([], none)
  | t :: rest =>
    match p.code[t.address]? with
    | some .accept => ([], some t.slots)
    | _ => let (alive, found) := untilAccept p rest; (t :: alive, found)

/-- Move the threads over a character, dropping those that cannot take it. -/
def advance (p : Program) (c : Char) (threads : List Thread) : List Thread :=
  threads.filterMap fun (t : Thread) =>
    match p.code[t.address]? with
    | some (.take set next) => if set.contains c then some ⟨next, t.slots⟩ else none
    | _ => none

/-- Run over the rest of a text. A new thread starts at every position until a match is found, at
the lowest preference; a found match is given up only for a preferred one. -/
def scan (p : Program) (fresh : Slots) (pos : Nat) (before : Option Char)
    (threads : List Thread) (best : Option Slots) (rest : List Char) : Option Slots :=
  let threads := if best.isNone then threads ++ [⟨p.start, fresh⟩] else threads
  if threads.isEmpty then best
  else
    let settled := p.settle pos before rest.head? (2 * p.code.size + threads.length + 1) threads
      (Array.replicate p.code.size false) []
    -- Threads after an accepting one are less preferred than its match and are dropped.
    let (alive, found) := p.untilAccept settled
    let best := found.or best
    match rest with
    | [] => best
    | c :: cs => scan p fresh (pos + 1) (some c) (p.advance c alive) best cs

/-- Search a text whose neighbour on the left is `before`; the slots of the leftmost match count
positions from the start of the text. -/
def search (p : Program) (before : Option Char) (cs : List Char) : Option Slots :=
  p.scan (Array.replicate p.slots none) 0 before [] none cs

end Program

end Transclusion.Pattern
