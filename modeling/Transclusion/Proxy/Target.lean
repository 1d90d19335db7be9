import Transclusion.Charset.Utf8
import Transclusion.Text.Split

/-!
# Request targets

What the first line of an HTTP request asks for: a path with a query, an absolute URL, an authority
alone, or `*`. Characters outside ASCII are taken as they are; of ASCII only some may stand in each
part, and a fragment is cut off.
-/

namespace Transclusion

/-- The parts of a request target that matter. -/
structure Target where
  scheme : Option String
  /-- Empty for an authority alone. -/
  path : String
  query : Option String
deriving DecidableEq, Repr

namespace Target

/-- The longest target, in bytes. -/
def maxLength : Nat := 65534

/-- The longest scheme. -/
def maxSchemeLength : Nat := 64

/-- Whether a character is in one of some ranges of code points. -/
def inRanges (ranges : List (Nat × Nat)) (c : Char) : Bool :=
  ranges.any fun (low, high) => low ≤ c.toNat && c.toNat ≤ high

/-- Whether a character may stand in a path. -/
def inPath (c : Char) : Bool :=
  inRanges [(0x21, 0x22), (0x24, 0x3B), (0x3D, 0x3D), (0x40, 0x5F), (0x61, 0x10FFFF)] c

/-- Whether a character may stand in a query. -/
def inQuery (c : Char) : Bool :=
  inRanges [(0x21, 0x21), (0x24, 0x3B), (0x3D, 0x3D), (0x3F, 0x10FFFF)] c

/-- Whether a character may stand in a scheme. -/
def inScheme (c : Char) : Bool := c.isAlphanum || c == '+' || c == '-' || c == '.'

/-- Whether a character may stand in an authority. -/
def inAuthority (c : Char) : Bool :=
  c.isAlphanum || "!$&\x27()*+,-.:;=@[]_~%".toList.contains c

/-- Whether a character ends an authority. -/
def endsAuthority (c : Char) : Bool := c == '/' || c == '?' || c == '#'

/-! ### Authorities -/

/-- What has been seen of an authority so far. A user part makes colons and percent signs before it
harmless, and so does the end of an address in brackets. -/
structure Seen where
  colons : Nat := 0
  opened : Bool := false
  closed : Bool := false
  percent : Bool := false
  /-- The last character was an at sign. -/
  user : Bool := false
deriving DecidableEq, Repr

/-- The most colons of an address in brackets with its port. -/
def maxColons : Nat := 8

/-- Take one more character into account. -/
def Seen.step? (s : Seen) (c : Char) : Option Seen :=
  -- Only an at sign at the very end leaves the host empty.
  let s := { s with user := false }
  match c with
  | ':' => if maxColons ≤ s.colons then none else some { s with colons := s.colons + 1 }
  | '[' => if s.percent || s.opened then none else some { s with opened := true }
  | ']' =>
    if !s.opened || s.closed then none
    else some { s with closed := true, colons := 0, percent := false }
  | '@' => some { s with colons := 0, percent := false, user := true }
  | '%' => some { s with percent := true }
  | _ => if inAuthority c then some s else none

/-- Whether an authority may end after what has been seen. -/
def Seen.isWhole (s : Seen) : Bool :=
  s.opened == s.closed && s.colons ≤ 1 && !s.user && !s.percent

/-- Whether a text is an authority. -/
def isAuthority (cs : List Char) : Bool :=
  ((cs.foldlM Seen.step? ({} : Seen)).map Seen.isWhole).getD false

/-! ### Paths and queries -/

/-- Read a path and a query; a missing path is the root. -/
def pathAndQuery? (scheme : Option String) (cs : List Char) : Option Target :=
  let isPath := fun (c : Char) => !(c == '?' || c == '#')
  let path := cs.takeWhile isPath
  let query : Option (List Char) := match cs.dropWhile isPath with
    | '?' :: rest => some (rest.takeWhile (· != '#'))
    | _ => none
  if path.all inPath && (query.map (·.all inQuery)).getD true then
    some ⟨scheme, if path = [] then "/" else String.ofList path, query.map String.ofList⟩
  else none

/-! ### Targets -/

/-- The scheme of a target, what follows it and its slashes; the two common ones are put into lower
case. A scheme may not be too long. -/
def scheme? (cs : List Char) : Option (Option String × List Char) :=
  let name := cs.takeWhile inScheme
  match cs.dropWhile inScheme with
  | ':' :: '/' :: '/' :: rest =>
    let text := String.ofList name
    let low := Text.lower text
    if low = "http" ∨ low = "https" then some (some low, rest)
    else if maxSchemeLength < name.length then none
    else some (some text, rest)
  | _ => some (none, cs)

/-- Read a target. -/
def parse? (text : String) : Option Target :=
  let cs := text.toList
  if cs = [] ∨ maxLength < (Utf8.encode cs).length then none
  else if cs = ['*'] then some ⟨none, "*", none⟩
  else if cs.head? = some '/' then pathAndQuery? none cs
  else
    match scheme? cs with
    | none => none
    -- Without a scheme everything is an authority, as for a request to open a connection.
    | some (none, _) => if isAuthority cs then some ⟨none, "", none⟩ else none
    | some (some scheme, rest) =>
      let isHost := fun (c : Char) => !endsAuthority c
      let authority := rest.takeWhile isHost
      if authority ≠ [] ∧ isAuthority authority then
        pathAndQuery? (some scheme) (rest.dropWhile isHost)
      else none

end Target

end Transclusion
