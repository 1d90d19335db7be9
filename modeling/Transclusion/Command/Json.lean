/-!
# JSON text

The JSON values that reports consist of, and their text: members on lines of their own, indented
by two spaces for each level; empty lists take one line. In strings, quotes, backslashes and
controls are escaped.
-/

namespace Transclusion

/-- A JSON value as reports use them. -/
inductive JsonValue where
  | text (s : String)
  | number (n : Nat)
  | list (items : List JsonValue)
  | object (members : List (String × JsonValue))
deriving Repr, Inhabited

namespace JsonValue

/-- The hexadecimal digit of a number below 16. -/
def hexDigit (n : Nat) : Char := if n < 10 then Char.ofNat (48 + n) else Char.ofNat (87 + n)

/-- A character as it stands in a string. -/
def escape (c : Char) : List Char :=
  match c with
  | '\x22' => ['\\', '\x22']
  | '\\' => ['\\', '\\']
  | '\n' => ['\\', 'n']
  | '\r' => ['\\', 'r']
  | '\t' => ['\\', 't']
  | '\x08' => ['\\', 'b']
  | '\x0c' => ['\\', 'f']
  | c =>
    if c.toNat < 0x20 then ['\\', 'u', '0', '0', hexDigit (c.toNat / 16), hexDigit (c.toNat % 16)]
    else [c]

/-- A string with its quotes. -/
def quote (s : String) : String :=
  String.ofList ('\x22' :: s.toList.flatMap escape ++ ['\x22'])

/-- The start of a line at a level. -/
def newLine (level : Nat) : String := "\n" ++ String.join (List.replicate level "  ")

/-- Members of a list or an object between brackets. -/
def block (opening closing : String) (level : Nat) (members : List String) : String :=
  if members.isEmpty then opening ++ closing
  else
    opening ++ String.intercalate "," (members.map (newLine (level + 1) ++ ·)) ++ newLine level ++
      closing

mutual

/-- The text of a value at a level. -/
def render (level : Nat) : JsonValue → String
  | text s => quote s
  | number n => toString n
  | list items => block "[" "]" level (renderItems (level + 1) items)
  | object members => block "\x7b" "\x7d" level (renderMembers (level + 1) members)

/-- The texts of the items of a list. -/
def renderItems (level : Nat) : List JsonValue → List String
  | [] => []
  | v :: vs => render level v :: renderItems level vs

/-- The texts of the members of an object. -/
def renderMembers (level : Nat) : List (String × JsonValue) → List String
  | [] => []
  | (name, v) :: vs => (quote name ++ ": " ++ render level v) :: renderMembers level vs

end

/-- A list of texts. -/
def texts (ss : List String) : JsonValue := list (ss.map text)

end JsonValue

end Transclusion
