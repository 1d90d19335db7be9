import Transclusion.Pattern.CharSet
import Transclusion.Url.Percent
import Transclusion.Url.Punycode

/-!
# Hosts

The host of a URL: a domain in ASCII form, an IPv4 or an IPv6 address, or, for schemes without
rules of their own, any text without forbidden characters.
-/

namespace Transclusion

/-- Why a text is not a URL. -/
inductive UrlFault where
  | emptyHost
  | invalidDomainName
  | invalidPort
  | invalidIpv4
  | invalidIpv6
  | invalidDomainCharacter
  | noBase
  | rootlessBase
deriving DecidableEq, Repr

/-- The message of a fault. -/
def UrlFault.message : UrlFault → String
  | emptyHost => "empty host"
  | invalidDomainName => "invalid international domain name"
  | invalidPort => "invalid port number"
  | invalidIpv4 => "invalid IPv4 address"
  | invalidIpv6 => "invalid IPv6 address"
  | invalidDomainCharacter => "invalid domain character"
  | noBase => "relative URL without a base"
  | rootlessBase => "relative URL with a cannot-be-a-base base"

/-- The host of a URL. -/
inductive Host where
  | name (text : String)
  | ipv4 (address : Nat)
  | ipv6 (pieces : List Nat)
deriving DecidableEq, Repr

namespace Host

/-- Characters that no domain holds. -/
def isForbiddenInDomain (c : Char) : Bool :=
  c.toNat ≤ 0x20 || c.toNat == 0x7F || "%#/:<>?@[\\]^|".toList.contains c

/-- Characters that no other host holds. -/
def isForbidden (c : Char) : Bool :=
  "\x00\t\n\r #/:<>?@[\\]^|".toList.contains c

/-- The code points that are never part of a domain, and the blanks that would turn into one. -/
def refused : Pattern.CharSet :=
  .union (.complement .assigned)
    (.ofLines (Text.Category.control ++ Text.Category.privateUse ++ Text.Category.spaceSeparator ++
      Text.Category.lineSeparator ++ Text.Category.paragraphSeparator ++ ["FFFC-FFFD"]))

/-- The lower-case form of a character: the first other member of its class of case variants that
is a lowercase letter. -/
def lowerCase (c : Char) : Char :=
  if c.toNat < 0x80 then c.toLower
  else
    let low := Text.CodeRange.ofLines Text.Category.lowercaseLetter
    if Text.CodeRange.mem low c.toNat then c
    else match Text.Folding.classes.find? (·.contains c.toNat) with
      | none => c
      | some cls => ((cls.find? (Text.CodeRange.mem low)).map Char.ofNat).getD c

/-- The characters that one character of a domain stands for. -/
def mapChar (c : Char) : List Char :=
  let n := c.toNat
  if n = 0xAD ∨ n = 0x200B ∨ n = 0x2060 ∨ n = 0xFEFF then []
  else if n = 0x3002 ∨ n = 0xFF0E ∨ n = 0xFF61 then ['.']
  else if 0xFF01 ≤ n ∧ n ≤ 0xFF5E then [(Char.ofNat (n - 0xFEE0)).toLower]
  else [lowerCase c]

/-- The ASCII form of a label. -/
def labelToAscii (label : List Char) : Except UrlFault (List Char) :=
  match Text.afterChars "xn--".toList label with
  | some code =>
    match Punycode.decode? code with
    | none => .error .invalidDomainName
    | some decoded =>
      if decoded.all (·.toNat < 0x80) || Punycode.encode decoded != code ||
        decoded.any refused.contains then .error .invalidDomainName
      else .ok label
  | none =>
    if label.all (·.toNat < 0x80) then .ok label
    else if label.any refused.contains then .error .invalidDomainName
    else .ok ("xn--".toList ++ Punycode.encode label)

/-- The ASCII form of a domain. -/
def domainToAscii (bytes : Bytes) : Except UrlFault (List Char) := do
  let cs := Utf8.decode bytes
  if Utf8.encode cs ≠ bytes then .error .invalidDomainName
  else
    let labels ← (Text.splitChars '.' (cs.flatMap mapChar)).mapM labelToAscii
    let domain := List.intercalate ['.'] labels
    if domain.any isForbiddenInDomain then .error .invalidDomainName else .ok domain

/-- The number that digits of some base denote, if all are digits of that base. -/
def number? (base : Nat) (digits : List Char) : Option Nat :=
  if digits.all fun c => Percent.isHexDigit c && Text.CodeRange.digitValue c < base then
    some (digits.foldl (fun n c => base * n + Text.CodeRange.digitValue c) 0)
  else none

/-- A part of an IPv4 address: decimal, octal after `0`, hexadecimal after `0x`. -/
def ipv4Part? : List Char → Option Nat
  | [] => none
  | '0' :: 'x' :: digits => number? 16 digits
  | '0' :: 'X' :: digits => number? 16 digits
  | '0' :: d :: digits => number? 8 (d :: digits)
  | digits => number? 10 digits

/-- The parts of a domain; an empty one at the end does not count. -/
def parts (domain : List Char) : List (List Char) :=
  let ps := Text.splitChars '.' domain
  if ps.getLast? = some [] then ps.dropLast else ps

/-- Whether a domain has to be read as an IPv4 address. -/
def endsInNumber (domain : List Char) : Bool :=
  match (parts domain).getLast? with
  | none => false
  | some last => (last != [] && last.all Char.isDigit) || (ipv4Part? last).isSome

/-- The address with the given parts, the last of which fills the remaining bytes. -/
def ipv4OfParts (numbers : List Nat) : Except UrlFault Nat :=
  match numbers.getLast? with
  | none => .error .invalidIpv4
  | some last =>
    let front := numbers.dropLast
    if 4 < numbers.length ∨ front.any (255 < ·) ∨ Nat.pow 256 (4 - front.length) ≤ last then
      .error .invalidIpv4
    else .ok (front.zipIdx.foldl (fun n (x, k) => n + x * Nat.pow 256 (3 - k)) last)

/-- Read an IPv4 address. -/
def parseIpv4 (domain : List Char) : Except UrlFault Nat :=
  match (parts domain).mapM ipv4Part? with
  | none => .error .invalidIpv4
  | some numbers => ipv4OfParts numbers

/-- Read the decimal parts of the IPv4 address at the end of an IPv6 address. -/
def embeddedIpv4? (cs : List Char) : Option (List Nat) := do
  let ps := Text.splitChars '.' cs
  guard (ps.length = 4)
  let ns ← ps.mapM fun p => do
    guard (p ≠ [] ∧ p.all Char.isDigit ∧ (p.length = 1 ∨ p.head? ≠ some '0') ∧ p.length ≤ 3)
    let n := Text.decimalValue p
    guard (n ≤ 255)
    some n
  match ns with
  | [a, b, c, d] => some [a * 256 + b, c * 256 + d]
  | _ => none

/-- Read the groups of one side of an IPv6 address; the last may be an IPv4 address. -/
def ipv6Groups? : List (List Char) → Option (List Nat)
  | [] => some []
  | [last] =>
    if last.contains '.' then embeddedIpv4? last
    else if last ≠ [] ∧ last.length ≤ 4 then (number? 16 last).map fun n => [n] else none
  | g :: gs => do
    guard (g ≠ [] ∧ g.length ≤ 4)
    let n ← number? 16 g
    let ns ← ipv6Groups? gs
    some (n :: ns)

/-- What stands before and after the first double colon. -/
def cutDoubleColon : List Char → Option (List Char × List Char)
  | [] => none
  | ':' :: ':' :: cs => some ([], cs)
  | c :: cs => (cutDoubleColon cs).map fun (before, after) => (c :: before, after)

/-- The groups of a text between colons; an empty text has none. -/
def groupsOf (cs : List Char) : List (List Char) :=
  if cs = [] then [] else Text.splitChars ':' cs

/-- Read an IPv6 address. -/
def parseIpv6 (cs : List Char) : Except UrlFault (List Nat) :=
  let pieces : Option (List Nat) :=
    match cutDoubleColon cs with
    | none => do
      let ns ← ipv6Groups? (groupsOf cs)
      guard (ns.length = 8)
      some ns
    | some (left, right) => do
      guard (!left.contains '.')
      let ls ← ipv6Groups? (groupsOf left)
      let rs ← ipv6Groups? (groupsOf right)
      guard (ls.length + rs.length ≤ 7)
      some (ls ++ List.replicate (8 - ls.length - rs.length) 0 ++ rs)
  match pieces with
  | some ns => .ok ns
  | none => .error .invalidIpv6

/-- Read an address in brackets, after the opening one. -/
def parseBracketed (cs : List Char) : Except UrlFault Host :=
  match cs.reverse with
  | ']' :: rest => (parseIpv6 rest.reverse).map .ipv6
  | _ => .error .invalidIpv6

/-- Read the host of a special scheme. -/
def parse (cs : List Char) : Except UrlFault Host :=
  match cs with
  | '[' :: rest => parseBracketed rest
  | _ => do
    let domain ← domainToAscii (Percent.decode cs)
    if domain = [] then .error .emptyHost
    else if endsInNumber domain then (parseIpv4 domain).map .ipv4
    else .ok (.name (String.ofList domain))

/-- Read the host of any other scheme. -/
def parseFree (cs : List Char) : Except UrlFault Host :=
  match cs with
  | '[' :: rest => parseBracketed rest
  | _ =>
    if cs.any isForbidden then .error .invalidDomainCharacter
    else .ok (.name (String.ofList (Percent.encode Percent.inControls cs)))

/-- The length of the run of zeros at the start of a list. -/
def zeros (ns : List Nat) : Nat := (ns.takeWhile (· == 0)).length

/-- The first longest run of at least two zeros: where it starts and how long it is. -/
def longestZeros (ns : List Nat) : Option (Nat × Nat) :=
  (List.range ns.length).foldl (fun best k =>
    let n := zeros (ns.drop k)
    if n < 2 then best
    else match best with
      | none => some (k, n)
      | some (_, m) => if m < n then some (k, n) else best) none

/-- A number in lower-case hexadecimal. -/
def hex (n : Nat) : String := String.ofList ((Nat.toDigits 16 n).map Char.toLower)

/-- Groups between colons. -/
def colons (ns : List Nat) : String := String.intercalate ":" (ns.map hex)

/-- The text of a host. -/
def render : Host → String
  | name text => text
  | ipv4 n => String.intercalate "."
      [toString (n / 16777216), toString (n / 65536 % 256), toString (n / 256 % 256),
        toString (n % 256)]
  | ipv6 ns =>
    match longestZeros ns with
    | none => "[" ++ colons ns ++ "]"
    | some (k, n) => "[" ++ colons (ns.take k) ++ "::" ++ colons (ns.drop (k + n)) ++ "]"

end Host

end Transclusion
