import Transclusion.Charset.Utf8

/-!
# UTF-16

Text as units of two bytes, in either order. A unit of a broken pair, and an odd byte at the end,
are read as replacement characters.
-/

namespace Transclusion.Utf16

/-- The order of the two bytes of a unit. -/
inductive Order where
  | little
  | big
deriving DecidableEq, Repr

/-- The number that two bytes denote. -/
def Order.unit (o : Order) (a b : UInt8) : Nat :=
  match o with
  | little => a.toNat + 256 * b.toNat
  | big => 256 * a.toNat + b.toNat

/-- The two bytes of a number. -/
def Order.bytes (o : Order) (n : Nat) : Bytes :=
  match o with
  | little => [UInt8.ofNat (n % 256), UInt8.ofNat (n / 256)]
  | big => [UInt8.ofNat (n / 256), UInt8.ofNat (n % 256)]

/-- The units of a list of bytes, and whether a byte is left over. -/
def units (o : Order) : Bytes → List Nat × Bool
  | [] => ([], false)
  | [_] => ([], true)
  | a :: b :: rest => let (us, odd) := units o rest; (o.unit a b :: us, odd)

/-- Whether a unit is the first half of a pair. -/
def isHigh (u : Nat) : Bool := 0xD800 ≤ u && u < 0xDC00

/-- Whether a unit is the second half of a pair. -/
def isLow (u : Nat) : Bool := 0xDC00 ≤ u && u < 0xE000

/-- Read units as text; `odd` tells that a byte is left over after them. -/
def ofUnits (odd : Bool) : List Nat → List Char
  | [] => if odd then [Utf8.replacement] else []
  | u :: rest =>
    if isHigh u then
      match rest with
      | [] => [Utf8.replacement]
      | v :: rest =>
        if isLow v then
          Char.ofNat (0x10000 + (u - 0xD800) * 1024 + (v - 0xDC00)) :: ofUnits odd rest
        -- The unit after a broken pair is read on its own.
        else Utf8.replacement :: ofUnits odd (v :: rest)
    else if isLow u then Utf8.replacement :: ofUnits odd rest
    else Char.ofNat u :: ofUnits odd rest

/-- Read bytes as text. -/
def decode (o : Order) (bytes : Bytes) : List Char :=
  let (us, odd) := units o bytes
  ofUnits odd us

/-- The units of one character. -/
def unitsOf (c : Char) : List Nat :=
  let n := c.toNat
  if n < 0x10000 then [n]
  else [0xD800 + (n - 0x10000) / 1024, 0xDC00 + (n - 0x10000) % 1024]

/-- Write text as bytes. -/
def encode (o : Order) (cs : List Char) : Bytes :=
  cs.flatMap fun c => (unitsOf c).flatMap o.bytes

end Transclusion.Utf16
