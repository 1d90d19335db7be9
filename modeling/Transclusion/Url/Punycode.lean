import Transclusion.Message.Body

/-!
# Punycode

Writing a label of any characters with ASCII letters, digits and hyphens: the ASCII characters
first, then, after a hyphen, numbers that say which other characters stand where.
-/

namespace Transclusion.Punycode

/-- The next bias after a number has been written. -/
def adapt (delta count : Nat) (first : Bool) : Nat :=
  let delta := if first then delta / 700 else delta / 2
  go 64 0 (delta + delta / count)
where
  /-- Divide until the number is small; the fuel exceeds the number of divisions of a word. -/
  go : Nat → Nat → Nat → Nat
    | 0, k, _ => k
    | fuel + 1, k, delta =>
      if 455 < delta then go fuel (k + 36) (delta / 35) else k + 36 * delta / (delta + 38)

/-- The digit of a number below 36. -/
def digit (n : Nat) : Char := if n < 26 then Char.ofNat (97 + n) else Char.ofNat (22 + n)

/-- The number of a digit. -/
def value? (c : Char) : Option Nat :=
  if c.isLower then some (c.toNat - 97)
  else if c.isUpper then some (c.toNat - 65)
  else if c.isDigit then some (c.toNat - 22)
  else none

/-- The threshold of the digit at position `k`. -/
def threshold (bias k : Nat) : Nat := if k ≤ bias then 1 else if bias + 26 ≤ k then 26 else k - bias

/-- Write a number with digits of varying base. -/
def writeNumber (bias : Nat) : Nat → Nat → Nat → List Char
  | 0, _, _ => []
  | fuel + 1, k, n =>
    let t := threshold bias k
    if n < t then [digit n]
    else digit (t + (n - t) % (36 - t)) :: writeNumber bias fuel (k + 36) ((n - t) / (36 - t))

/-- The state of writing: the next code point, the number to write, the bias, the count of
characters written, and the digits so far. -/
structure Writer where
  delta : Nat
  bias : Nat
  count : Nat
  out : List Char

/-- Pass over one character while the code point `n` is being written. -/
def Writer.step (basic n : Nat) (w : Writer) (c : Nat) : Writer :=
  if c < n then { w with delta := w.delta + 1 }
  else if c = n then
    { delta := 0
      bias := adapt w.delta (w.count + 1) (w.count == basic)
      count := w.count + 1
      out := w.out ++ writeNumber w.bias 64 36 w.delta }
  else w

/-- Write every character above ASCII, in the order of code points. -/
def writeAll (basic : Nat) (label : List Nat) : List Nat → Nat → Writer → Writer
  | [], _, w => w
  | m :: ms, n, w =>
    -- The number counts all places that were passed over, for every code point in between.
    let w := { w with delta := w.delta + (m - n) * (w.count + 1) }
    let w := label.foldl (Writer.step basic m) w
    writeAll basic label ms (m + 1) { w with delta := w.delta + 1 }

/-- Write a label. -/
def encode (label : List Char) : List Char :=
  let codes := label.map Char.toNat
  let basic := label.filter fun c => c.toNat < 0x80
  let others := ((codes.filter fun n => 0x80 ≤ n).mergeSort fun a b => a ≤ b).eraseDups
  let w := writeAll basic.length codes others 0x80 ⟨0, 72, basic.length, []⟩
  basic ++ (if basic.isEmpty then [] else ['-']) ++ w.out

/-- Read a number with digits of varying base. -/
def readNumber (bias : Nat) : List Char → Nat → Nat → Nat → Option (Nat × List Char)
  | [], _, _, _ => none
  | c :: cs, k, weight, n => do
    let d ← value? c
    let n := n + d * weight
    let t := threshold bias k
    if d < t then some (n, cs) else readNumber bias cs (k + 36) (weight * (36 - t)) n

/-- Read the characters above ASCII into their places. -/
def readAll : Nat → List Char → Nat → Nat → Nat → List Nat → Option (List Nat)
  | 0, _, _, _, _, _ => none
  | _ + 1, [], _, _, _, out => some out
  | fuel + 1, cs, n, i, bias, out => do
    let (delta, rest) ← readNumber bias cs 36 1 0
    let count := out.length + 1
    let n := n + (i + delta) / count
    let at_ := (i + delta) % count
    guard n.isValidChar
    readAll fuel rest n (at_ + 1) (adapt delta count (i == 0 && n - 0x80 == (i + delta) / count &&
      out.all (· < 0x80))) (out.take at_ ++ n :: out.drop at_)

/-- Read a label. -/
def decode? (label : List Char) : Option (List Char) :=
  let after := (label.reverse.takeWhile (· != '-')).reverse
  let basic := label.take (label.length - after.length - 1)
  (readAll (label.length + 1) after 0x80 0 72 (basic.map Char.toNat)).map (·.map Char.ofNat)

end Transclusion.Punycode
