import Transclusion.Text.Split

/-!
# Ranges of code points

Sets of code points as lists of closed ranges, and their written form: words such as `41-5A` or
`AA`, in hexadecimal, separated by blanks.
-/

namespace Transclusion.Text.CodeRange

/-- The value of a hexadecimal digit; other characters count as zero. -/
def digitValue (c : Char) : Nat :=
  if '0' ≤ c ∧ c ≤ '9' then c.toNat - 48
  else if 'A' ≤ c ∧ c ≤ 'F' then c.toNat - 55
  else if 'a' ≤ c ∧ c ≤ 'f' then c.toNat - 87
  else 0

/-- The number that a list of hexadecimal digits denotes. -/
def value (digits : List Char) : Nat :=
  digits.foldl (fun n c => 16 * n + digitValue c) 0

/-- The range that a word denotes. -/
def ofWord (word : List Char) : Nat × Nat :=
  match cutChars '-' word with
  | some (low, high) => (value low, value high)
  | none => (value word, value word)

/-- The ranges that lines of words denote. -/
def ofLines (lines : List String) : List (Nat × Nat) :=
  lines.flatMap fun line => (splitChars ' ' line.toList).map ofWord

/-- Whether a code point lies in one of the ranges. -/
def mem (ranges : List (Nat × Nat)) (n : Nat) : Bool :=
  ranges.any fun (low, high) => low ≤ n && n ≤ high

end Transclusion.Text.CodeRange
