import Transclusion.Document.Token

/-!
# Nodes

The tree that the tokens of a document describe: scalars, sequences, mappings, and aliases of
nodes that carry an anchor. Anchors are numbered; an alias holds the number of its anchor.
-/

namespace Transclusion.Document

/-- A node of a document. Tags are kept on scalars, where they matter. -/
inductive Node where
  | aliasOf (number : Nat)
  | scalar (text : String) (style : Style) (tag : Option String)
  | sequence (items : List Node)
  | mapping (pairs : List (Node × Node))
deriving Repr, Inhabited

namespace Node

/-- What stands where nothing is written. -/
def empty : Node := .scalar "" .plain none

end Node

/-- The anchors met so far. A name that is new gets the number of names before it; a name that is
bound again gets the number of all names. Of the anchors with one number the last one counts. -/
structure Anchors where
  /-- The numbers of the names. -/
  names : List (String × Nat)
  /-- The numbers of all anchors, the last one first. -/
  numbers : List Nat
  /-- The nodes of the anchors, by their position among all. -/
  nodes : List (Nat × Node)
deriving Repr, Inhabited

namespace Anchors

/-- The number that a name is bound to. -/
def number? (a : Anchors) (name : String) : Option Nat :=
  (a.names.find? fun (n, _) => n == name).map (·.2)

/-- Bind a name; the result is the position of the anchor. -/
def bind (a : Anchors) (name : String) : Nat × Anchors :=
  let count := a.names.length
  let others := a.names.filter fun (n, _) => n != name
  (a.numbers.length, { a with names := (name, count) :: others, numbers := count :: a.numbers })

/-- Set the node of an anchor. -/
def set (a : Anchors) (position : Nat) (n : Node) : Anchors :=
  { a with nodes := (position, n) :: a.nodes }

/-- The node that an alias stands for. -/
def target? (a : Anchors) (number : Nat) : Option Node :=
  match a.numbers.dropWhile (· != number) with
  | [] => none
  | _ :: before => (a.nodes.find? fun (p, _) => p == before.length).map (·.2)

end Anchors

/-- The state of building a tree. -/
structure Builder where
  tokens : List Token
  /-- What the handles of tags stand for. -/
  handles : List (String × String)
  anchors : Anchors

/-- A step of building a tree. -/
abbrev Build := StateT Builder Option

namespace Build

/-- The next token. -/
def peek : Build (Option Token) := do return (← get).tokens.head?

/-- Whether the next token is one of some. -/
def at? (ts : List Token) : Build Bool := do return ((← peek).map ts.contains).getD false

/-- Take the next token. -/
def skip : Build Unit := modify fun b => { b with tokens := b.tokens.tail }

/-- Take the next token for an empty node. -/
def skipEmpty : Build Node := do
  skip
  return .empty

/-- Take the next token if it is the given one. -/
def take? (t : Token) : Build Bool := do
  if ← at? [t] then
    skip
    return true
  else return false

/-- Take the next token, which has to be the given one. -/
def expect (t : Token) : Build Unit := do
  if ← take? t then return () else failure

/-- The full text of a tag. -/
def tagText (t : TagText) : Build String := do
  if t.handle = "" then return t.suffix
  else
    match (← get).handles.find? fun (h, _) => h == t.handle with
    | some (_, start) => return start ++ t.suffix
    | none => failure

/-- Read an anchor, if there is one. -/
def anchor? : Build (Option String) := do
  match ← peek with
  | some (.anchor name) =>
    skip
    return some name
  | _ => return none

/-- Read a tag, if there is one. -/
def tag? : Build (Option TagText) := do
  match ← peek with
  | some (.tag t) =>
    skip
    return some t
  | _ => return none

/-- Read an anchor and a tag in either order. -/
def properties : Build (Option String × Option TagText) := do
  match ← anchor? with
  | some name => return (some name, ← tag?)
  | none =>
    let t ← tag?
    let name ← if t.isSome then anchor? else pure none
    return (name, t)

/-- Bind an anchor. -/
def bindAnchor (name : String) : Build Nat := do
  let b ← get
  let (position, anchors) := b.anchors.bind name
  set { b with anchors := anchors }
  return position

/-- The node of an alias. -/
def alias? (name : String) : Build Node := do
  match (← get).anchors.number? name with
  | some n => return .aliasOf n
  | none => failure

/-- Build what an anchor names. -/
def anchored (name : Option String) (node : Build Node) : Build Node := do
  match name with
  | none => node
  | some name =>
    let position ← bindAnchor name
    let n ← node
    modify fun b => { b with anchors := b.anchors.set position n }
    return n

/-- Build a node, or an empty one if the next token is one of some. -/
def orEmpty (ends : List Token) (node : Build Node) : Build Node := do
  if ← at? ends then return .empty else node

/-- Whether all tokens are used up. -/
def atEnd : Build Bool := do return (← get).tokens.isEmpty

mutual

/-- Read a node. Block collections may stand where `block` holds, and sequences without indentation
where `bare` holds too. Each call takes a token or leads to one that does. -/
def node (block bare : Bool) : Nat → Build Node
  | 0 => failure
  | fuel + 1 => do
    match ← peek with
    | some (.aliasOf name) =>
      skip
      alias? name
    | _ =>
      -- An anchor is bound before its node is read, so that the node may refer to itself.
      let (name, written) ← properties
      let tag ← written.mapM tagText
      anchored name do
        match ← peek with
        | some (.scalar text style) =>
          skip
          return .scalar text style (tag.filter (· != "!"))
        | some .flowSequenceStart =>
          skip
          return .sequence (← flowItems true fuel)
        | some .flowMappingStart =>
          skip
          return .mapping (← flowPairs true fuel)
        | t =>
          if bare && t == some .blockEntry then return .sequence (← bareItems fuel)
          else if block && t == some .blockSequenceStart then
            skip
            return .sequence (← blockItems fuel)
          else if block && t == some .blockMappingStart then
            skip
            return .mapping (← blockPairs fuel)
          -- With an anchor or a tag the node may be empty.
          else if name.isSome || tag.isSome then return .scalar "" .plain tag
          else failure

/-- Read the items of a block sequence, up to its end. -/
def blockItems : Nat → Build (List Node)
  | 0 => failure
  | fuel + 1 => do
    if ← take? .blockEntry then
      let item ← orEmpty [.blockEntry, .blockEnd] (node true false fuel)
      return item :: (← blockItems fuel)
    else
      expect .blockEnd
      return []

/-- Read the items of a sequence without indentation. -/
def bareItems : Nat → Build (List Node)
  | 0 => failure
  | fuel + 1 => do
    if ← take? .blockEntry then
      let item ← orEmpty [.blockEntry, .key, .value, .blockEnd] (node true false fuel)
      return item :: (← bareItems fuel)
    else return []

/-- Read the pairs of a block mapping, up to its end. -/
def blockPairs : Nat → Build (List (Node × Node))
  | 0 => failure
  | fuel + 1 => do
    if ← take? .key then
      let key ← orEmpty [.key, .value, .blockEnd] (node true true fuel)
      let value ← blockValue fuel
      return (key, value) :: (← blockPairs fuel)
    else
      expect .blockEnd
      return []

/-- Read the value of a pair of a block mapping, which may be missing. -/
def blockValue : Nat → Build Node
  | 0 => failure
  | fuel + 1 => do
    if ← take? .value then orEmpty [.key, .value, .blockEnd] (node true true fuel)
    else return .empty

/-- Read the items of a flow sequence, up to its end. An item may be a single pair. -/
def flowItems (first : Bool) : Nat → Build (List Node)
  | 0 => failure
  | fuel + 1 => do
    if ← take? .flowSequenceEnd then return []
    else
      if first then pure () else expect .flowEntry
      if ← take? .flowSequenceEnd then return []
      else
        let pair ← take? .key
        let item ← if pair then flowPair fuel else node false false fuel
        return item :: (← flowItems false fuel)

/-- Read a single pair among the items of a flow sequence, after the sign of its key. Where the
key is missing, the sign after it goes unread as well. -/
def flowPair : Nat → Build Node
  | 0 => failure
  | fuel + 1 => do
    let missing ← at? [.value, .flowEntry, .flowSequenceEnd]
    let key ← if missing then skipEmpty else node false false fuel
    let written ← take? .value
    let value ←
      if written then orEmpty [.flowEntry, .flowSequenceEnd] (node false false fuel)
      else pure .empty
    return .mapping [(key, value)]

/-- Read the pairs of a flow mapping, up to its end. -/
def flowPairs (first : Bool) : Nat → Build (List (Node × Node))
  | 0 => failure
  | fuel + 1 => do
    if ← take? .flowMappingEnd then return []
    else
      if first then pure () else expect .flowEntry
      if ← take? .flowMappingEnd then return []
      else if ← take? .key then
        let key ← orEmpty [.value, .flowEntry, .flowMappingEnd] (node false false fuel)
        let value ← flowValue fuel
        return (key, value) :: (← flowPairs false fuel)
      else
        -- A node alone is a key without a value.
        let key ← node false false fuel
        return (key, .empty) :: (← flowPairs false fuel)

/-- Read the value of a pair of a flow mapping, which may be missing. -/
def flowValue : Nat → Build Node
  | 0 => failure
  | fuel + 1 => do
    if ← take? .value then orEmpty [.flowEntry, .flowMappingEnd] (node false false fuel)
    else return .empty

end

/-- The versions of the format that can be read. -/
def isReadable (major minor : Nat) : Bool := major == 1 && (minor == 1 || minor == 2)

/-- Read the directives at the head; there is one version at most, and each handle is declared
once. -/
def directives (version : Bool) : Nat → Build Unit
  | 0 => failure
  | fuel + 1 => do
    match ← peek with
    | some (.directive (.version major minor)) =>
      if version || !isReadable major minor then failure
      else
        skip
        directives true fuel
    | some (.directive (.tag handle start)) =>
      let b ← get
      if b.handles.any fun (h, _) => h == handle then failure
      else
        set { b with handles := b.handles ++ [(handle, start)] }
        skip
        directives version fuel
    | _ => return ()

/-- The handles that stand for something unless a directive says otherwise. -/
def standardHandles : List (String × String) := [("!", "!"), ("!!", "tag:yaml.org,2002:")]

/-- Declare the standard handles that no directive has declared. -/
def declareStandard : Build Unit :=
  modify fun b => { b with handles := b.handles ++ standardHandles }

/-- Whether the next token opens a document or belongs to its head. -/
def atHead : Build Bool := do
  match ← peek with
  | some (.directive _) => return true
  | some .documentStart => return true
  | _ => return false

/-- Read the node of a document; there may be none after its opening line. -/
def root (fuel : Nat) : Build Node := do
  if ← atHead then
    directives false fuel
    declareStandard
    expect .documentStart
    if (← atEnd) || (← atHead) || (← at? [.documentEnd]) then return .empty
    else node true false fuel
  else
    declareStandard
    node true false fuel

/-- Read the closing lines of documents. -/
def closings : Nat → Build Unit
  | 0 => return ()
  | fuel + 1 => do
    if ← take? .documentEnd then closings fuel else return ()

/-- Read everything: a single document, or nothing. -/
def whole (fuel : Nat) : Build Node := do
  if ← atEnd then return .empty
  else
    let n ← root fuel
    closings fuel
    if ← atEnd then return n else failure

end Build

end Transclusion.Document
