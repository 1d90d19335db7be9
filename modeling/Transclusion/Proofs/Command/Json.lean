import Mathlib.Data.List.Forall2
import Transclusion.Command.Json

/-!
# The text of JSON values

A grammar of JSON, apart from the layout that reports have, and that what is rendered follows it.

## Main result

`JsonValue.spells_render`: the text of a value spells this value.
-/

namespace Transclusion.JsonValue

/-! ### The grammar -/

def hexDigits : List Char := "0123456789abcdef".toList

/-- How a character stands in a string. -/
inductive SpellsChar : List Char → Char → Prop
  | plain {c : Char} (visible : 0x20 ≤ c.toNat) (noQuote : c ≠ '\x22') (noSlash : c ≠ '\\') :
      SpellsChar [c] c
  | quote : SpellsChar ['\\', '\x22'] '\x22'
  | backslash : SpellsChar ['\\', '\\'] '\\'
  | newLine : SpellsChar ['\\', 'n'] '\n'
  | carriageReturn : SpellsChar ['\\', 'r'] '\r'
  | tab : SpellsChar ['\\', 't'] '\t'
  | backspace : SpellsChar ['\\', 'b'] '\x08'
  | formFeed : SpellsChar ['\\', 'f'] '\x0c'
  | code {c high low : Char} (first : hexDigits[c.toNat / 16]? = some high)
      (second : hexDigits[c.toNat % 16]? = some low) : SpellsChar ['\\', 'u', '0', '0', high, low] c

/-- A string between quotes. -/
inductive SpellsText : List Char → String → Prop
  | quoted {pieces : List (List Char)} {s : String}
      (chars : List.Forall₂ SpellsChar pieces s.toList) :
      SpellsText ('\x22' :: pieces.flatten ++ ['\x22']) s

def IsBlank (cs : List Char) : Prop := ∀ c ∈ cs, c = ' ' ∨ c = '\t' ∨ c = '\n' ∨ c = '\r'

/-- Pieces that stand for the items of a list, with commas between them. -/
inductive Listed {α : Type} (spells : List Char → α → Prop) : List Char → List α → Prop
  | empty {blank : List Char} (isBlank : IsBlank blank) : Listed spells blank []
  | last {before after piece : List Char} {a : α} (front : IsBlank before) (item : spells piece a)
      (back : IsBlank after) : Listed spells (before ++ piece ++ after) [a]
  | more {before after piece rest : List Char} {a b : α} {others : List α}
      (front : IsBlank before) (item : spells piece a) (back : IsBlank after)
      (later : Listed spells rest (b :: others)) :
      Listed spells (before ++ piece ++ after ++ ',' :: rest) (a :: b :: others)

mutual

/-- Whether a text is a value. -/
inductive Spells : List Char → JsonValue → Prop
  | text {cs : List Char} {s : String} (string : SpellsText cs s) : Spells cs (.text s)
  | number (n : Nat) : Spells (Nat.toDigits 10 n) (.number n)
  | list {inner : List Char} {items : List JsonValue} (listed : Listed Spells inner items) :
      Spells ('[' :: inner ++ [']']) (.list items)
  | object {inner : List Char} {members : List (String × JsonValue)}
      (listed : Listed SpellsMember inner members) :
      Spells ('\x7b' :: inner ++ ['\x7d']) (.object members)

inductive SpellsMember : List Char → String × JsonValue → Prop
  | named {key blank piece : List Char} {name : String} {v : JsonValue}
      (string : SpellsText key name) (isBlank : IsBlank blank) (value : Spells piece v) :
      SpellsMember (key ++ ':' :: blank ++ piece) (name, v)

end

/-! ### Strings -/

theorem hexDigit_eq : ∀ n < 16, hexDigits[n]? = some (hexDigit n) := by
  decide

theorem spellsChar_escape (c : Char) : SpellsChar (escape c) c := by
  unfold escape
  split
  -- Apart from the signs with escapes of their own there are controls and plain characters.
  case h_8 quote backslash _ _ _ _ _ =>
    split
    next control =>
      exact .code (hexDigit_eq _ (by omega)) (hexDigit_eq _ (by omega))
    next visible => exact .plain (by omega) (by simpa using quote) (by simpa using backslash)
  all_goals constructor

theorem spellsText_quote (s : String) : SpellsText (quote s).toList s := by
  have chars : List.Forall₂ SpellsChar (s.toList.map escape) s.toList := by
    rw [List.forall₂_map_left_iff]
    exact List.forall₂_same.2 fun c _ => spellsChar_escape c
  rw [quote, String.toList_ofList, List.flatMap_def]
  exact .quoted chars

/-! ### Layout -/

theorem isBlank_nil : IsBlank [] := by
  simp [IsBlank]

theorem isBlank_newLine (level : Nat) : IsBlank (newLine level).toList := by
  intro c member
  simp only [newLine, String.toList_append, String.toList_join, List.mem_append,
    List.mem_flatMap, List.mem_replicate] at member
  rcases member with first | ⟨indent, ⟨-, rfl⟩, blank⟩
  · simp_all
  · simp_all

variable {α : Type} {spells : List Char → α → Prop} {values : List α}

theorem listed_intercalate {before after : List Char} (front : IsBlank before)
    (back : IsBlank after) {piece : List Char} {v : α} {pieces : List (List Char)}
    (item : spells piece v) (items : List.Forall₂ spells pieces values) :
    Listed spells
      (List.intercalate [','] ((piece :: pieces).map (before ++ ·)) ++ after) (v :: values) := by
  induction items generalizing piece v with
  | nil => simpa using Listed.last front item back
  | @cons next w pieces values later _ ih =>
    have joined := Listed.more front item isBlank_nil (ih later)
    simpa using joined

theorem listed_block (opening closing : String) (level : Nat) {members : List String}
    (items : List.Forall₂ (fun s v => spells s.toList v) members values) :
    ∃ inner, (block opening closing level members).toList =
      opening.toList ++ inner ++ closing.toList ∧ Listed spells inner values := by
  cases items with
  | nil => exact ⟨[], by simp [block], .empty isBlank_nil⟩
  | @cons s v members values item items =>
    refine ⟨_, ?_, listed_intercalate (isBlank_newLine (level + 1)) (isBlank_newLine level) item
      ((List.forall₂_map_left_iff).2 items)⟩
    -- A block indents its members before it joins them.
    have comma : ",".toList = [','] := rfl
    have indented : String.toList ∘ (newLine (level + 1) ++ ·) =
        ((newLine (level + 1)).toList ++ ·) ∘ String.toList := by
      funext s
      simp
    simp only [block, List.isEmpty_cons, Bool.false_eq_true, if_false, String.toList_append,
      String.toList_intercalate, List.map_cons, List.map_map, List.append_assoc, comma, indented]

/-! ### Values -/

mutual

theorem spells_render (level : Nat) (v : JsonValue) : Spells (render level v).toList v := by
  cases v with
  | text s => exact .text (spellsText_quote s)
  | number n =>
    rw [render, Nat.toString_eq_repr, Nat.toList_repr]
    exact .number n
  | list items =>
    obtain ⟨inner, whole, listed⟩ :=
      listed_block "[" "]" level (spells_renderItems (level + 1) items)
    rw [render, whole]
    exact .list listed
  | object members =>
    obtain ⟨inner, whole, listed⟩ :=
      listed_block "\x7b" "\x7d" level (spells_renderMembers (level + 1) members)
    rw [render, whole]
    exact .object listed

theorem spells_renderItems (level : Nat) (items : List JsonValue) :
    List.Forall₂ (fun s v => Spells s.toList v) (renderItems level items) items := by
  cases items with
  | nil => exact .nil
  | cons v items => exact .cons (spells_render level v) (spells_renderItems level items)

theorem spells_renderMembers (level : Nat) (members : List (String × JsonValue)) :
    List.Forall₂ (fun s m => SpellsMember s.toList m) (renderMembers level members) members := by
  cases members with
  | nil => exact .nil
  | cons member members =>
    obtain ⟨name, v⟩ := member
    refine .cons ?_ (spells_renderMembers level members)
    have blank : IsBlank [' '] := by simp [IsBlank]
    simpa using SpellsMember.named (spellsText_quote name) blank (spells_render level v)

end

end Transclusion.JsonValue
