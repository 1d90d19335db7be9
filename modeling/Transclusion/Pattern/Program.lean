import Transclusion.Pattern.Expr

/-!
# Programs

A pattern compiled to instructions. An instruction names the ones that may follow it; a fork
prefers its first branch. Compilation goes from the end to the start: the code of an expression is
appended given the address where matching continues, and its entry address is returned.
-/

namespace Transclusion.Pattern

/-- One instruction; addresses are positions in the program. -/
inductive Instr where
  /-- Take one character of the set. -/
  | take (set : CharSet) (next : Nat)
  /-- Try the first branch, then the second. -/
  | fork (first second : Nat)
  /-- Go on only where the condition holds. -/
  | check (anchor : Anchor) (next : Nat)
  /-- Remember the position in a slot. -/
  | save (slot : Nat) (next : Nat)
  /-- The pattern has matched. -/
  | accept
deriving Repr, Inhabited

/-- Instructions together with the address to begin at. -/
structure Program where
  code : Array Instr
  start : Nat
deriving Repr, Inhabited

namespace Program

/-- A fork that prefers `body` if greedy, and `exit` otherwise. -/
def choice (greedy : Bool) (body exit : Nat) : Instr :=
  if greedy then .fork body exit else .fork exit body

/-- Append code for `count` copies of a body. -/
def copies (body : Array Instr → Nat → Array Instr × Nat) :
    Nat → Array Instr → Nat → Array Instr × Nat
  | 0, code, next => (code, next)
  | count + 1, code, next =>
    let (code, entry) := body code next
    copies body count code entry

/-- Append code for up to `count` copies of a body, each of which may go straight to `exit`. -/
def optionalCopies (greedy : Bool) (body : Array Instr → Nat → Array Instr × Nat) (exit : Nat) :
    Nat → Array Instr → Nat → Array Instr × Nat
  | 0, code, next => (code, next)
  | count + 1, code, next =>
    let (code, entry) := body code next
    optionalCopies greedy body exit count (code.push (choice greedy entry exit)) code.size

/-- Append code for one or more copies of a body; the entry is that of the body. -/
def oneOrMore (greedy : Bool) (body : Array Instr → Nat → Array Instr × Nat)
    (code : Array Instr) (next : Nat) : Array Instr × Nat :=
  -- The place of the loop is kept free until the entry of the body is known.
  let loop := code.size
  let (code, entry) := body (code.push .accept) loop
  (code.setIfInBounds loop (choice greedy entry next), entry)

/-- Append the code of an expression that goes on at `next`. -/
def emit : Expr → Array Instr → Nat → Array Instr × Nat
  | .empty, code, next => (code, next)
  | .oneOf set, code, next => (code.push (.take set next), code.size)
  | .anchor a, code, next => (code.push (.check a next), code.size)
  | .capture index body, code, next =>
    let close := code.size
    let (code, entry) := emit body (code.push (.save (2 * index + 1) next)) close
    (code.push (.save (2 * index) entry), code.size)
  -- The second part comes first in the program, since the first has to know where it begins.
  | .seq first second, code, next =>
    let (code, middle) := emit second code next
    emit first code middle
  | .alt first second, code, next =>
    let (code, one) := emit first code next
    let (code, two) := emit second code next
    (code.push (.fork one two), code.size)
  | .times least (some most) greedy body, code, next =>
    let (code, entry) := optionalCopies greedy (emit body) next (most - least) code next
    copies (emit body) least code entry
  | .times 0 none greedy body, code, next =>
    -- A body that may be empty is entered once before the loop, so that the way around it stays
    -- possible.
    if body.nullable then
      let (code, entry) := oneOrMore greedy (emit body) code next
      (code.push (choice greedy entry next), code.size)
    else
      let loop := code.size
      let (code, entry) := emit body (code.push .accept) loop
      (code.setIfInBounds loop (choice greedy entry next), loop)
  | .times (least + 1) none greedy body, code, next =>
    let (code, entry) := oneOrMore greedy (emit body) code next
    copies (emit body) least code entry

/-- Compile an expression; the whole match is captured under the number 0. -/
def ofExpr (e : Expr) : Program :=
  let (code, start) := emit (.capture 0 e) #[.accept] 0
  ⟨code, start⟩

/-- The number of slots that the program uses. -/
def slots (p : Program) : Nat :=
  p.code.foldl (fun n i => match i with
    | .save slot _ => max n (slot + 1)
    | _ => n) 0

end Program

end Transclusion.Pattern
