import Transclusion.Message.Body

/-!
# UTF-8

Decoding replaces each malformed sequence by one replacement character: the longest beginning of a
well-formed sequence, or else a single byte. A byte order mark is kept as text.
-/

namespace Transclusion.Utf8

/-- What stands for malformed input. -/
def replacement : Char := '\ufffd'

/-- Whether a byte continues a sequence. -/
def isTail (b : UInt8) : Bool := 0x80 ≤ b.toNat && b.toNat < 0xC0

/-- Whether a byte may be the second of the sequence that `lead` starts. -/
def isSecond (lead : Nat) (b : UInt8) : Bool :=
  isTail b &&
    (if lead = 0xE0 then 0xA0 ≤ b.toNat
    else if lead = 0xED then b.toNat < 0xA0
    else if lead = 0xF0 then 0x90 ≤ b.toNat
    else if lead = 0xF4 then b.toNat < 0x90
    else true)

/-- The six bits that a continuing byte carries. -/
def bits (b : UInt8) : Nat := b.toNat - 0x80

/-- Read bytes as text. -/
def decode : Bytes → List Char
  | [] => []
  | a :: rest =>
    if a.toNat < 0x80 then Char.ofNat a.toNat :: decode rest
    -- A continuing byte without a lead, or a lead that only needless sequences start with.
    else if a.toNat < 0xC2 then replacement :: decode rest
    else if a.toNat < 0xE0 then
      match rest with
      | [] => [replacement]
      | b :: rest =>
        if isTail b then Char.ofNat ((a.toNat - 0xC0) * 64 + bits b) :: decode rest
        -- The byte that breaks a sequence may start the next one.
        else replacement :: decode (b :: rest)
    else if a.toNat < 0xF0 then
      match rest with
      | [] => [replacement]
      | b :: rest =>
        if isSecond a.toNat b then
          match rest with
          | [] => [replacement]
          | c :: rest =>
            if isTail c then
              Char.ofNat (((a.toNat - 0xE0) * 64 + bits b) * 64 + bits c) :: decode rest
            else replacement :: decode (c :: rest)
        else replacement :: decode (b :: rest)
    else if a.toNat < 0xF5 then
      match rest with
      | [] => [replacement]
      | b :: rest =>
        if isSecond a.toNat b then
          match rest with
          | [] => [replacement]
          | c :: rest =>
            if isTail c then
              match rest with
              | [] => [replacement]
              | d :: rest =>
                if isTail d then
                  Char.ofNat ((((a.toNat - 0xF0) * 64 + bits b) * 64 + bits c) * 64 + bits d) ::
                    decode rest
                else replacement :: decode (d :: rest)
            else replacement :: decode (c :: rest)
        else replacement :: decode (b :: rest)
    else replacement :: decode rest

/-- The bytes of one character. -/
def encodeChar (c : Char) : Bytes :=
  let n := c.toNat
  if n < 0x80 then [UInt8.ofNat n]
  else if n < 0x800 then [UInt8.ofNat (0xC0 + n / 64), UInt8.ofNat (0x80 + n % 64)]
  else if n < 0x10000 then
    [UInt8.ofNat (0xE0 + n / 4096), UInt8.ofNat (0x80 + n / 64 % 64), UInt8.ofNat (0x80 + n % 64)]
  else
    [UInt8.ofNat (0xF0 + n / 262144), UInt8.ofNat (0x80 + n / 4096 % 64),
      UInt8.ofNat (0x80 + n / 64 % 64), UInt8.ofNat (0x80 + n % 64)]

/-- Write text as bytes. -/
def encode (cs : List Char) : Bytes := cs.flatMap encodeChar

/-- Read bytes as text if they are well formed, which is if writing the text gives the bytes. -/
def decode? (bytes : Bytes) : Option (List Char) :=
  if encode (decode bytes) = bytes then some (decode bytes) else none

end Transclusion.Utf8
