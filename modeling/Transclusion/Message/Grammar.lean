import Transclusion.Text.Split

/-!
# The grammar of HTTP messages

Which texts may stand for methods and header names, and which for header values, when a message is
put on the wire.
-/

namespace Transclusion.Grammar

/-- Whether a character may stand in a token: ASCII letters, digits and fifteen signs. -/
def isTokenChar (c : Char) : Bool :=
  c.isAlphanum || "!#$%&\x27*+-.^_\x60|~".toList.contains c

/-- Whether a text is a token, as methods and header names are. -/
def isToken (s : String) : Bool :=
  s != "" && s.toList.all isTokenChar

/-- Whether a character may stand in a header value: no controls but the tab. -/
def isFieldChar (c : Char) : Bool :=
  c == '\t' || (0x20 ≤ c.toNat && c.toNat != 0x7F)

/-- Whether a text may be a header value. -/
def isFieldValue (s : String) : Bool := s.toList.all isFieldChar

/-- Whether a character is visible ASCII, a blank or a tab. -/
def isPlainChar (c : Char) : Bool :=
  c == '\t' || (0x20 ≤ c.toNat && c.toNat < 0x7F)

/-- Whether a header value can be read as text: only visible ASCII, blanks and tabs. -/
def isPlainValue (s : String) : Bool := s.toList.all isPlainChar

end Transclusion.Grammar
