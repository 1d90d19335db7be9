import Transclusion.Charset.Utf8
import Transclusion.Text.CodeRange

/-!
# Percent coding

Bytes that may not stand in a part of a URL are written as a percent sign and two hexadecimal
digits. Each part has its own set of such characters; characters outside ASCII always belong to
it.
-/

namespace Transclusion.Percent

/-- Controls and everything outside ASCII. -/
def inControls (c : Char) : Bool := c.toNat < 0x20 || 0x7E < c.toNat

/-- What is coded in a fragment. -/
def inFragment (c : Char) : Bool :=
  inControls c || c == ' ' || c == '\x22' || c == '<' || c == '>' || c == '\x60'

/-- What is coded in a path. -/
def inPath (c : Char) : Bool :=
  inFragment c || c == '#' || c == '?' || c == '\x7b' || c == '\x7d'

/-- What is coded in a user name or a password. -/
def inUserInfo (c : Char) : Bool :=
  inPath c || c == '/' || c == ':' || c == ';' || c == '=' || c == '@' || c == '[' || c == '\\' ||
    c == ']' || c == '^' || c == '|'

/-- What is coded in a query; the special schemes code single quotes too. -/
def inQuery (special : Bool) (c : Char) : Bool :=
  inControls c || c == ' ' || c == '\x22' || c == '#' || c == '<' || c == '>' ||
    (special && c == '\x27')

/-- The hexadecimal digit of a number below 16. -/
def digit (n : Nat) : Char := if n < 10 then Char.ofNat (48 + n) else Char.ofNat (55 + n)

/-- The three characters that stand for a byte. -/
def codeByte (b : UInt8) : List Char := ['%', digit (b.toNat / 16), digit (b.toNat % 16)]

/-- Code the characters of a set. -/
def encode (set : Char → Bool) (cs : List Char) : List Char :=
  cs.flatMap fun c => if set c then (Utf8.encodeChar c).flatMap codeByte else [c]

/-- Whether a character is a hexadecimal digit. -/
def isHexDigit (c : Char) : Bool :=
  ('0' ≤ c && c ≤ '9') || ('a' ≤ c && c ≤ 'f') || ('A' ≤ c && c ≤ 'F')

/-- Undo percent coding; a percent sign that two digits do not follow stands for itself. -/
def decode : List Char → Bytes
  | [] => []
  | '%' :: a :: b :: cs =>
    if isHexDigit a && isHexDigit b then
      UInt8.ofNat (Text.CodeRange.digitValue a * 16 + Text.CodeRange.digitValue b) :: decode cs
    else 0x25 :: decode (a :: b :: cs)
  | c :: cs => Utf8.encodeChar c ++ decode cs

end Transclusion.Percent
