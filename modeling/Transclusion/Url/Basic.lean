import Transclusion.Url.Form
import Transclusion.Url.Host

/-!
# URLs

URLs as the web reads them. A text is read against an optional base: tabs and line ends are
dropped, a scheme is recognised, and what follows is split into authority, path, query and
fragment. The special schemes (`http`, `https`, `ws`, `wss`, `ftp`, `file`) take backslashes for
slashes and always have a path; other schemes may have a path without a root, which nothing can be
resolved against.
-/

namespace Transclusion

/-- The path of a URL. -/
inductive UrlPath where
  /-- A text without structure. -/
  | rootless (text : String)
  /-- Segments, each after a slash. -/
  | rooted (segments : List String)
deriving DecidableEq, Repr

/-- A URL in its parts; all texts are percent coded. -/
structure Url where
  scheme : String
  username : String
  password : String
  /-- `none` if there is no authority. -/
  host : Option Host
  /-- `none` for the default port of the scheme. -/
  port : Option Nat
  path : UrlPath
  query : Option String
  fragment : Option String
deriving DecidableEq, Repr

namespace UrlPath

/-- The text of a path. -/
def render : UrlPath → String
  | rootless text => text
  | rooted segments => String.join (segments.map ("/" ++ ·))

/-- The segments of a path; one without a root has none. -/
def segments : UrlPath → List String
  | rootless _ => []
  | rooted segments => segments

/-- Let the path end in a slash. -/
def closed (p : UrlPath) : UrlPath :=
  match p with
  | rootless text => if text.toList.getLast? = some '/' then p else rootless (text ++ "/")
  | rooted segments => if segments.getLast? = some "" then p else rooted (segments ++ [""])

end UrlPath

namespace Url

/-- The schemes with rules of their own. -/
def specialSchemes : List String := ["http", "https", "ws", "wss", "ftp", "file"]

/-- Whether a scheme is special. -/
def isSpecial (scheme : String) : Bool := specialSchemes.contains scheme

/-- The port that goes without saying. -/
def defaultPort? : String → Option Nat
  | "http" => some 80
  | "ws" => some 80
  | "https" => some 443
  | "wss" => some 443
  | "ftp" => some 21
  | _ => none

/-- Whether a character is dropped from the ends of the text. -/
def isEdge (c : Char) : Bool := c.toNat ≤ 0x20

/-- The text without controls and blanks at its ends and without tabs and line ends inside. -/
def clean (cs : List Char) : List Char :=
  (Text.dropEndWhile isEdge (cs.dropWhile isEdge)).filter fun c =>
    !(c == '\t' || c == '\n' || c == '\r')

/-- Whether a character may stand in a scheme after its first letter. -/
def inScheme (c : Char) : Bool := c.isAlphanum || c == '+' || c == '-' || c == '.'

/-- The scheme at the start of a text, in lower case, and what follows its colon. -/
def scheme? (cs : List Char) : Option (String × List Char) :=
  match cs with
  | [] => none
  | c :: _ =>
    if c.isAlpha then
      match cs.dropWhile inScheme with
      | ':' :: rest => some (String.ofList ((cs.takeWhile inScheme).map Char.toLower), rest)
      | _ => none
    else none

/-- The hierarchical part of a text, its query and its fragment. -/
structure Split where
  body : List Char
  query : Option (List Char)
  fragment : Option (List Char)

/-- Split a text at its first `#`, and what stands before it at the first `?`. -/
def split (cs : List Char) : Split :=
  let (front, fragment) := match Text.cutChars '#' cs with
    | some (a, b) => (a, some b)
    | none => (cs, none)
  match Text.cutChars '?' front with
  | some (a, b) => ⟨a, some b, fragment⟩
  | none => ⟨front, none, fragment⟩

/-- The coded query of a split text. -/
def Split.codedQuery (s : Split) (special : Bool) : Option String :=
  s.query.map fun q => String.ofList (Percent.encode (Percent.inQuery special) q)

/-- The coded fragment of a split text. -/
def Split.codedFragment (s : Split) : Option String :=
  s.fragment.map fun f => String.ofList (Percent.encode Percent.inFragment f)

/-! ### Paths -/

/-- Whether a character separates segments. -/
def isSlash (special : Bool) (c : Char) : Bool := c == '/' || (special && c == '\\')

/-- The pieces of a path between its slashes. -/
def pieces (special : Bool) : List Char → List (List Char)
  | [] => [[]]
  | c :: cs =>
    if isSlash special c then [] :: pieces special cs
    else match pieces special cs with
      | [] => [[c]]
      | p :: ps => (c :: p) :: ps

/-- A piece with each coded dot in plain form. -/
def plainDots : List Char → List Char
  | '%' :: '2' :: 'e' :: cs => '.' :: plainDots cs
  | '%' :: '2' :: 'E' :: cs => '.' :: plainDots cs
  | c :: cs => c :: plainDots cs
  | [] => []

/-- Whether a piece stands for the current segment. -/
def isSingleDot (p : List Char) : Bool := plainDots p == ['.']

/-- Whether a piece stands for the segment above. -/
def isDoubleDot (p : List Char) : Bool := plainDots p == ['.', '.']

/-- Whether a piece is a letter followed by a colon or a bar. -/
def isDriveLetter : List Char → Bool
  | [c, d] => c.isAlpha && (d == ':' || d == '|')
  | _ => false

/-- Whether a segment is a letter followed by a colon. -/
def isDrive (s : String) : Bool :=
  match s.toList with
  | [c, ':'] => c.isAlpha
  | _ => false

/-- Remove the last segment, but not a drive that stands alone. -/
def shorten (file : Bool) (segments : List String) : List String :=
  match segments with
  | [s] => if file && isDrive s then segments else []
  | _ => segments.dropLast

/-- Add the pieces of a path to some segments, resolving dots. -/
def walk (file : Bool) (segments : List String) : List (List Char) → List String
  | [] => segments
  | p :: ps =>
    let last := ps.isEmpty
    let next :=
      -- Dots at the end leave an empty segment, and with it a slash at the end.
      if isDoubleDot p then
        let shorter := shorten file segments
        if last then shorter ++ [""] else shorter
      else if isSingleDot p then if last then segments ++ [""] else segments
      else if file && segments.isEmpty && isDriveLetter p then
        [String.ofList (p.take 1 ++ [':'])]
      else segments ++ [String.ofList (Percent.encode Percent.inPath p)]
    walk file next ps

/-- Read a path after its first slash, on top of some segments. -/
def readPath (special : Bool) (segments : List String) (cs : List Char) : UrlPath :=
  .rooted (walk false segments (pieces special cs))

/-! ### Authorities -/

/-- What stands before and after the last occurrence of a character. -/
def cutLast (sep : Char) (cs : List Char) : Option (List Char × List Char) :=
  (Text.cutChars sep cs.reverse).map fun (after, before) => (before.reverse, after.reverse)

/-- What stands before the first colon outside brackets, and from there on. -/
def cutPort : Bool → List Char → List Char × List Char
  | _, [] => ([], [])
  | inside, c :: cs =>
    if c == ':' && !inside then ([], c :: cs)
    else
      let (host, port) := cutPort (if c == '[' then true else if c == ']' then false else inside) cs
      (c :: host, port)

/-- The user name and the password of an authority. -/
def userInfo (cs : List Char) : String × String :=
  let coded := fun (part : List Char) => String.ofList (Percent.encode Percent.inUserInfo part)
  match Text.cutChars ':' cs with
  | some (user, password) => (coded user, coded password)
  | none => (coded cs, "")

/-- Read a port after its colon; what is left belongs to the path. -/
def readPort (scheme : String) (cs : List Char) : Except UrlFault (Option Nat × List Char) :=
  let digits := cs.takeWhile Char.isDigit
  let rest := cs.dropWhile Char.isDigit
  let n := Text.decimalValue digits
  if 65535 < n then .error .invalidPort
  else if rest.head? ≠ none ∧ rest.head? ≠ some '\\' then .error .invalidPort
  else .ok (if digits = [] ∨ defaultPort? scheme = some n then none else some n, rest)

/-- Read what follows two slashes: user, host, port and path. -/
def authority (scheme : String) (s : Split) (cs : List Char) : Except UrlFault Url := do
  let special := isSpecial scheme
  let front := cs.takeWhile fun c => !isSlash special c
  let rest := cs.dropWhile fun c => !isSlash special c
  -- An at sign within the user part belongs to it, so the last one counts.
  let (user, address) := match cutLast '@' front with
    | some (user, address) => (some user, address)
    | none => (none, front)
  if user = some [] ∧ address = [] ∧ rest ≠ [] then .error .emptyHost
  else
    let (username, password) := userInfo (user.getD [])
    let (hostText, portText) := cutPort false address
    if hostText = [] ∧ (special ∨ portText ≠ [] ∨ username ≠ "" ∨ password ≠ "") then
      .error .emptyHost
    else
      let host ← if special then Host.parse hostText else Host.parseFree hostText
      let (number, more) ← match portText with
        | [] => .ok (none, [])
        | _ :: digits => readPort scheme digits
      let rest := more ++ rest
      let segments := match rest with
        | [] => if special then UrlPath.rooted [""] else .rooted []
        | c :: tail => readPath special [] (if isSlash special c then tail else rest)
      .ok ⟨scheme, username, password, some host, number, segments, s.codedQuery special,
        s.codedFragment⟩

/-! ### Files -/

/-- A path without the empty segments at its start, but with one segment at least. -/
def leaveOne (segments : List String) : List String :=
  match segments.dropWhile (· == "") with
  | [] => [""]
  | rest => rest

/-- A file with the given host and segments. -/
def fileUrl (host : Host) (segments : List String) (s : Split) : Url :=
  ⟨"file", "", "", some host, none, .rooted (leaveOne segments), s.codedQuery true,
    s.codedFragment⟩

/-- Whether a path begins with a drive letter. -/
def startsWithDrive (cs : List Char) : Bool :=
  isDriveLetter (cs.takeWhile fun c => !isSlash true c)

/-- The segments that a path starts from when it begins with one slash. -/
def driveOf (base : Option Url) : List String :=
  match base with
  | none => []
  | some b => (b.path.segments.take 1).filter isDrive

/-- Read a file after two slashes: a host, unless a drive letter stands in its place, and a path. -/
def fileHost (s : Split) (cs : List Char) : Except UrlFault Url := do
  let front := cs.takeWhile fun c => !isSlash true c
  let rest := cs.dropWhile fun c => !isSlash true c
  -- A drive letter is no host but the first segment of the path.
  if isDriveLetter front then
    .ok (fileUrl (.name "") (walk true [] (pieces true cs)) s)
  else
    let host ← if front = [] then .ok (Host.name "") else Host.parse front
    let host := if host = .name "localhost" then .name "" else host
    .ok (fileUrl host (walk true [] (pieces true rest.tail)) s)

/-- Read what follows the scheme of a file, or a reference relative to one. -/
def file (base : Option Url) (s : Split) : Except UrlFault Url :=
  match s.body with
  | [] =>
    match base with
    | none => .ok (fileUrl (.name "") [] s)
    | some b =>
      .ok { b with
        query := if s.query.isSome then s.codedQuery true else b.query
        fragment := s.codedFragment }
  | c :: cs =>
    if isSlash true c then
      match cs with
      | d :: more =>
        if isSlash true d then fileHost s more
        else
          let host := (base.bind (·.host)).getD (.name "")
          let start := if startsWithDrive cs then [] else driveOf base
          .ok (fileUrl (if startsWithDrive cs then .name "" else host)
            (walk true start (pieces true cs)) s)
      | [] => .ok (fileUrl ((base.bind (·.host)).getD (.name "")) (driveOf base ++ [""]) s)
    else
      match base with
      | none => .ok (fileUrl (.name "") (walk true [] (pieces true s.body)) s)
      | some b =>
        if startsWithDrive s.body then
          .ok (fileUrl (.name "") (walk true [] (pieces true s.body)) s)
        else
          .ok (fileUrl (b.host.getD (.name ""))
            (walk true (shorten true b.path.segments) (pieces true s.body)) s)

/-! ### Whole URLs -/

/-- Read a reference without a scheme against a base that is no file. -/
def relative (base : Url) (s : Split) : Except UrlFault Url :=
  let special := isSpecial base.scheme
  let slash := fun (c : Char) => c == '/' || c == '\\'
  match s.body with
  | [] =>
    .ok { base with
      query := if s.query.isSome then s.codedQuery special else base.query
      fragment := s.codedFragment }
  | c :: cs =>
    if slash c then
      match cs with
      | d :: more =>
        if slash d then
          authority base.scheme s (if c == '/' && d == '/' then more else more.dropWhile slash)
        else
          .ok { base with
            path := readPath special [] cs
            query := s.codedQuery special
            fragment := s.codedFragment }
      | [] =>
        .ok { base with
          path := .rooted [""]
          query := s.codedQuery special
          fragment := s.codedFragment }
    else
      .ok { base with
        path := readPath special base.path.segments.dropLast s.body
        query := s.codedQuery special
        fragment := s.codedFragment }

/-- Read what follows a scheme without rules of its own. -/
def free (scheme : String) (s : Split) : Except UrlFault Url :=
  match s.body with
  | '/' :: '/' :: cs => authority scheme s cs
  | '/' :: cs =>
    .ok ⟨scheme, "", "", none, none, readPath false [] cs, s.codedQuery false, s.codedFragment⟩
  | cs =>
    let path := String.ofList (Percent.encode Percent.inControls cs)
    .ok ⟨scheme, "", "", none, none, .rootless path, s.codedQuery false, s.codedFragment⟩

/-- Read a text, against a base if there is one. -/
def parse (base : Option Url) (text : String) : Except UrlFault Url :=
  let cs := clean text.toList
  match scheme? cs with
  | some (scheme, rest) =>
    let s := split rest
    -- A base of the same scheme still counts if fewer than two slashes follow the scheme.
    if scheme = "file" then file (base.filter fun b => b.scheme == "file") s
    else if isSpecial scheme then
      let isSlash := fun (c : Char) => c == '/' || c == '\\'
      let slashes := (s.body.takeWhile isSlash).length
      match base.filter fun b => b.scheme == scheme && slashes < 2 with
      | some b => relative b s
      | none => authority scheme s (s.body.dropWhile isSlash)
    else free scheme s
  | none =>
    match base with
    | none => .error .noBase
    | some b =>
      let s := split cs
      match b.path with
      -- Of a URL without a root only the fragment can be replaced.
      | .rootless _ =>
        if cs.head? = some '#' then .ok { b with fragment := s.codedFragment }
        else .error .rootlessBase
      | .rooted _ => if b.scheme = "file" then file base s else relative b s

/-- Resolve a reference against a URL. -/
def join (base : Url) (reference : String) : Except UrlFault Url := parse (some base) reference

/-- The user and the password before the host. -/
def renderUser (u : Url) : String :=
  if u.username = "" ∧ u.password = "" then ""
  else if u.password = "" then u.username ++ "@"
  else u.username ++ ":" ++ u.password ++ "@"

/-- The authority with its slashes; a path that starts with two slashes is told apart from one. -/
def renderAuthority (u : Url) : String :=
  match u.host with
  | some host =>
    "//" ++ renderUser u ++ host.render ++ (u.port.map fun n => s!":{n}").getD ""
  | none =>
    match u.path with
    | .rooted ("" :: _ :: _) => "/."
    | _ => ""

/-- The text of a URL. -/
def render (u : Url) : String :=
  u.scheme ++ ":" ++ renderAuthority u ++ u.path.render ++
    (u.query.map ("?" ++ ·)).getD "" ++ (u.fragment.map ("#" ++ ·)).getD ""

end Url

end Transclusion
