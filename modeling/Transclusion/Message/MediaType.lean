import Transclusion.Text.Split

/-!
# Content-Type values

A value names a media type and may carry parameters after semicolons. Two things are read from it:
the media type, trimmed and in lower case, and the first `charset` parameter, whose value keeps
its case and loses surrounding double quotes.
-/

namespace Transclusion

/-- What a Content-Type value says. -/
structure MediaType where
  media : String
  charset : Option String
deriving DecidableEq, Repr

namespace MediaType

/-- Remove the double quotes at both ends of a text. -/
def unquote (s : String) : String :=
  String.ofList (Text.dropEndWhile (· == '\x22') (s.toList.dropWhile (· == '\x22')))

/-- The charset that one parameter names; parameters without `=` or with another key name none. -/
def charsetOf (parameter : String) : Option String :=
  match Text.cutAt '=' parameter with
  | none => none
  | some (key, value) =>
    -- The key may be in any case; the value keeps its own.
    if Text.sameIgnoringCase (Text.trim key) "charset" then some (unquote (Text.trim value))
    else none

/-- Read a Content-Type value. -/
def parse (value : String) : MediaType :=
  match Text.splitOn ';' value with
  | [] => ⟨"", none⟩
  | media :: parameters => ⟨Text.lower (Text.trim media), parameters.findSome? charsetOf⟩

end MediaType

end Transclusion
