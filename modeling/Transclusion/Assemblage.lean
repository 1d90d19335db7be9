import Transclusion.Failure
import Transclusion.Pattern.Template

/-!
# Assemblages

The rules applied while content is spliced into blocks: error slots that write the status or the
text of a failure into a block, and adjusters that change fetched content with the groups of the
block.
-/

namespace Transclusion

/-- A pattern with the template that replaces its matches. -/
structure Replacer where
  pattern : Pattern
  template : String
deriving Repr, Inhabited

/-- The rules bound to some content types. -/
structure Assemblage where
  /-- The identity by which resources are found. -/
  id : String
  /-- Replacers by error slot, sorted by slot. -/
  errors : List (String × Replacer)
  adjusters : List Replacer
deriving Repr, Inhabited

namespace Text

/-- Replace the occurrences of `old`, taken from the left without overlaps, by `new`. -/
def replaceChars (old new : List Char) : Nat → List Char → List Char
  | 0, cs => cs
  | _ + 1, [] => []
  | fuel + 1, c :: cs =>
    match afterChars old (c :: cs) with
    | some rest => new ++ replaceChars old new fuel rest
    | none => c :: replaceChars old new fuel cs

def replaceText (old new s : String) : String :=
  String.ofList (replaceChars old.toList new.toList s.toList.length s.toList)

end Text

namespace Assemblage

/-- The slot that takes the status of a failure. -/
def statusSlot : String := "ERROR_STATUS"

/-- The slot that takes the text of a failure. -/
def textSlot : String := "ERROR_TEXT"

def make (id : String) : Assemblage := ⟨id, [], []⟩

/-- Put a replacer into a sorted list of slots, in place of an earlier one. -/
def insertSlot (slot : String) (r : Replacer) : List (String × Replacer) → List (String × Replacer)
  | [] => [(slot, r)]
  | (t, q) :: rest =>
    if slot < t then (slot, r) :: (t, q) :: rest
    else if slot = t then (slot, r) :: rest
    else (t, q) :: insertSlot slot r rest

/-- Bind an error slot; a later replacer takes the place of an earlier one. -/
def withError (a : Assemblage) (slot : String) (r : Replacer) : Assemblage :=
  { a with errors := insertSlot slot r a.errors }

/-- Add an adjuster after the others. -/
def withAdjuster (a : Assemblage) (r : Replacer) : Assemblage :=
  { a with adjusters := a.adjusters ++ [r] }

def slot? (a : Assemblage) (slot : String) : Option Replacer :=
  (a.errors.find? fun (s, _) => s == slot).map (·.2)

/-- A template that gives exactly the text. -/
def literal (text : String) : String := Text.replaceChar '$' "$$" text

/-- Write a value into a block through a slot: the value stands for each `*` of its template. -/
def fillSlot (a : Assemblage) (slot value block : String) : String :=
  match a.slot? slot with
  | none => block
  -- The value must not be read as part of a template, so its dollar signs are doubled.
  | some r => r.pattern.replaceWith block (Text.replaceChar '*' (literal value) r.template)

/-- Render a failed block: it is kept, with the status and the text of the failure written into
it. -/
def renderFailure (a : Assemblage) (block : String) (failure : FetchFailure) : String :=
  a.fillSlot textSlot failure.text (a.fillSlot statusSlot (toString failure.status) block)

theorem renderFailure_eq (a : Assemblage) (block : String) (failure : FetchFailure) :
    a.renderFailure block failure = a.fillSlot "ERROR_TEXT" failure.text
      (a.fillSlot "ERROR_STATUS" (toString failure.status) block) := rfl

/-- The token that stands for a group in the template of an adjuster. -/
def token (k : Nat) : String := s!"\x7b{k}\x7d"

/-- Bind the tokens of a template to groups, which are numbered from `k` on. -/
def bindTokens (template : String) (k : Nat) : List String → String
  | [] => template
  | group :: groups =>
    bindTokens (Text.replaceText (token k) (literal group) template) (k + 1) groups

/-- Apply every adjuster in order, its tokens bound to the groups of the block. -/
def adjust (a : Assemblage) (content : String) (groups : List String) : String :=
  a.adjusters.foldl
    (fun content r => r.pattern.replaceWith content (bindTokens r.template 1 groups)) content

end Assemblage

end Transclusion
