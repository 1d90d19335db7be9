import Transclusion.Message.Basic
import Transclusion.Url.Percent

/-!
# Form-coded pairs

Query strings as lists of pairs: pairs are separated by ampersands, key and value by the first
equals sign, blanks are written as plus signs, and other characters are percent coded.
-/

namespace Transclusion.Form

/-- Decode a key or a value. -/
def decodeText (cs : List Char) : String :=
  String.ofList (Utf8.decode (Percent.decode (cs.map fun c => if c = '+' then ' ' else c)))

/-- Read one pair; without an equals sign the value is empty. -/
def pair (piece : List Char) : String × String :=
  match Text.cutChars '=' piece with
  | some (key, value) => (decodeText key, decodeText value)
  | none => (decodeText piece, "")

/-- Read a query string; empty pieces are skipped. -/
def parse (query : List Char) : Parameters :=
  ((Text.splitChars '&' query).filter (· ≠ [])).map pair

/-- Whether a byte is written as it is. -/
def isPlain (b : UInt8) : Bool :=
  let c := Char.ofNat b.toNat
  b.toNat < 0x80 && (c.isAlphanum || c == '*' || c == '-' || c == '.' || c == '_')

/-- Write one byte. -/
def encodeByte (b : UInt8) : List Char :=
  if b = 0x20 then ['+'] else if isPlain b then [Char.ofNat b.toNat] else Percent.codeByte b

/-- Write a key or a value. -/
def encodeText (s : String) : List Char := (Utf8.encode s.toList).flatMap encodeByte

/-- Write pairs as a query string. -/
def render (ps : Parameters) : List Char :=
  List.intercalate ['&'] (ps.map fun (k, v) => encodeText k ++ '=' :: encodeText v)

end Transclusion.Form
