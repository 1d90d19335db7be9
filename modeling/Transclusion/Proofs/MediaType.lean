import Transclusion.Message.MediaType
import Transclusion.Proofs.Text.Casing
import Transclusion.Proofs.Trigger.Spelling

/-!
# Spelling a content type

A content type is a media type and a list of parameters, and it can be written in many ways: in
other cases of its letters, with blanks around its parts, with values in double quotes, and with
parts between them that are no parameters. However it is done, the same media type and the same
charset are read from it.

## Main results

`parse_of_spells`: what is read from a content type, given what it spells.
-/

namespace Transclusion.MediaType

open RequestedName (Spaced)

/-! ### Values -/

/-- How a value is written: bare or in double quotes. -/
inductive SpellsValue : List Char → String → Prop where
  | bare {v : List Char} {value : String} (spaced : Spaced v value) : SpellsValue v value
  | quoted {v : List Char} {value : String} (spaced : Spaced v ("\x22" ++ value ++ "\x22")) :
      SpellsValue v value

variable {v : List Char} {value : String}

theorem unquote_of_free (free : '\x22' ∉ value.toList) : unquote value = value := by
  have kept : ∀ c ∈ value.toList, (c == '\x22') = false := by
    intro c member
    rw [beq_eq_false_iff_ne]
    rintro rfl
    exact free member
  simp [unquote, Text.dropWhile_of_forall kept, Text.dropEndWhile_of_forall kept]

theorem unquote_quoted (value : String) : unquote ("\x22" ++ value ++ "\x22") = unquote value := by
  have opened : ("\x22" ++ value ++ "\x22").toList.dropWhile (· == '\x22') =
      (value.toList ++ ['\x22']).dropWhile (· == '\x22') := by simp
  rw [unquote, unquote, opened, List.dropWhile_append]
  split
  next empty => simp [Text.dropEndWhile, List.isEmpty_iff.1 empty]
  next => simp [Text.dropEndWhile]

theorem unquote_of_spells (spells : SpellsValue v value) (free : '\x22' ∉ value.toList)
    (visible : ∀ c ∈ value.toList, Text.isBlank c = false) :
    unquote (Text.trim (String.ofList v)) = value := by
  cases spells with
  | bare spaced =>
    have trimmed := spaced.trimChars (Text.trim_of_visible visible)
    simp [Text.trim, trimmed, unquote_of_free free]
  | quoted spaced =>
    have sign : Text.isBlank '\x22' = false := by decide
    have visible' : ∀ c ∈ ("\x22" ++ value ++ "\x22").toList, Text.isBlank c = false := by
      simpa [or_imp, forall_and, sign] using visible
    have trimmed := spaced.trimChars (Text.trim_of_visible visible')
    rw [Text.trim, String.toList_ofList, trimmed, String.ofList_toList, unquote_quoted,
      unquote_of_free free]

theorem isBlank_semicolon : Text.isBlank ';' = false := by decide

theorem SpellsValue.noSemicolon (spells : SpellsValue v value) (free : ';' ∉ value.toList) :
    ';' ∉ v := by
  cases spells with
  | bare spaced => exact spaced.not_mem isBlank_semicolon free
  | quoted spaced => exact spaced.not_mem isBlank_semicolon (by simp [free])

/-! ### Parameters -/

structure IsParameter (p : String × String) : Prop where
  keyFree : ';' ∉ p.1.toList ∧ '=' ∉ p.1.toList
  keyVisible : ∀ c ∈ p.1.toList, Text.isBlank c = false
  valueFree : ';' ∉ p.2.toList ∧ '\x22' ∉ p.2.toList
  valueVisible : ∀ c ∈ p.2.toList, Text.isBlank c = false

/-- How a parameter is written, and what stands for none. -/
inductive SpellsParameter : List Char → Option (String × String) → Prop where
  | pair {k v : List Char} {key written value : String}
      (sameKey : Text.sameIgnoringCase written key = true) (spacedKey : Spaced k written)
      (spelled : SpellsValue v value) : SpellsParameter (k ++ '=' :: v) (some (key, value))
  | other {part : List Char} (free : ';' ∉ part ∧ '=' ∉ part) : SpellsParameter part none

variable {part : List Char} {spelled : Option (String × String)}

theorem charsetOf_of_spells (spells : SpellsParameter part spelled)
    (proper : ∀ p, spelled = some p → IsParameter p) :
    charsetOf (String.ofList part) =
      spelled.bind fun p => if Text.sameIgnoringCase p.1 "charset" then some p.2 else none := by
  cases spells with
  | other free => simp [charsetOf, Text.cutAt, Text.cutChars_of_not_mem free.2]
  | @pair k v key written value sameKey spacedKey spelled =>
    obtain ⟨keyFree, keyVisible, valueFree, valueVisible⟩ := proper _ rfl
    have visible := Text.visible_of_same sameKey keyVisible
    have noEquals : '=' ∉ written.toList := by
      rw [Text.mem_of_same (by decide) sameKey]
      exact keyFree.2
    have cut := Text.cutChars_append (spacedKey.not_mem (by decide) noEquals) v
    have key : Text.trim (String.ofList k) = written := by
      simp [Text.trim, spacedKey.trimChars (Text.trim_of_visible visible)]
    have value := unquote_of_spells spelled valueFree.2 valueVisible
    -- The case of the letters of a key is ignored, so the written key is as good as the key itself.
    simp [charsetOf, Text.cutAt, cut, key, value, Text.sameIgnoringCase,
      Text.sameIgnoringCase_iff.1 sameKey]

theorem SpellsParameter.noSemicolon (spells : SpellsParameter part spelled)
    (proper : ∀ p, spelled = some p → IsParameter p) : ';' ∉ part := by
  cases spells with
  | other free => exact free.1
  | pair sameKey spacedKey spelled =>
    obtain ⟨keyFree, -, valueFree, -⟩ := proper _ rfl
    have same := Text.mem_of_same (by decide : Char.isAlpha ';' = false) sameKey
    have keyBare := spacedKey.not_mem isBlank_semicolon (same.not.2 keyFree.1)
    simp [keyBare, spelled.noSemicolon valueFree.1]

/-! ### Content types -/

/-- How a content type is written. -/
inductive Spells (contentType media : String) (parameters : List (String × String)) : Prop where
  | parts {m : List Char} {written : String} {parts : List (List Char × Option (String × String))}
      (sameMedia : Text.sameIgnoringCase written media = true) (spaced : Spaced m written)
      (spelled : ∀ part ∈ parts, SpellsParameter part.1 part.2)
      (joined : contentType.toList = List.intercalate [';'] (m :: parts.map (·.1)))
      (listed : parameters = parts.filterMap (·.2)) : Spells contentType media parameters

/-- The value of the first parameter whose key is `charset`. -/
def charset? (parameters : List (String × String)) : Option String :=
  (parameters.find? fun p => Text.sameIgnoringCase p.1 "charset").map (·.2)

variable {parts : List (List Char × Option (String × String))} {contentType media : String}
  {parameters : List (String × String)}

theorem findSome?_charsetOf (spelled : ∀ part ∈ parts, SpellsParameter part.1 part.2)
    (proper : ∀ part ∈ parts, ∀ p, part.2 = some p → IsParameter p) :
    (parts.map fun part => String.ofList part.1).findSome? charsetOf =
      charset? (parts.filterMap (·.2)) := by
  induction parts with
  | nil => rfl
  | cons part parts ih =>
    rw [List.forall_mem_cons] at spelled proper
    have here := charsetOf_of_spells spelled.1 proper.1
    have later := ih spelled.2 proper.2
    obtain ⟨text, none | p⟩ := part
    · simpa [here] using later
    · -- A parameter with another key is passed over like a part that is no parameter.
      cases named : Text.sameIgnoringCase p.1 "charset" with
      | true => simp [here, charset?, named]
      | false => simpa [here, charset?, named] using later

theorem lower_trim_of_same {m : List Char} {written : String} (spaced : Spaced m written)
    (same : Text.sameIgnoringCase written media = true) :
    Text.lower (Text.trim (String.ofList m)) = Text.lower (Text.trim media) := by
  obtain ⟨before, after, blank, rfl⟩ := spaced
  have blanks := List.forall_mem_append.1 blank
  calc Text.lower (Text.trim (String.ofList (before ++ written.toList ++ after)))
    _ = Text.lower (Text.trim written) := by
      simp only [Text.trim, String.toList_ofList, Text.trimChars_append_right blanks.2,
        Text.trimChars_append_left blanks.1]
    _ = Text.trim (Text.lower written) := (Text.trim_lower written).symm
    _ = Text.trim (Text.lower media) := by rw [Text.sameIgnoringCase_iff.1 same]
    _ = Text.lower (Text.trim media) := Text.trim_lower media

theorem parse_of_bare (bare : ';' ∉ media.toList) :
    parse media = ⟨Text.lower (Text.trim media), none⟩ := by
  simp [parse, Text.splitOn, Text.splitChars_of_not_mem bare]

/-- A content type is read as its media type, in lower case and without blanks at its ends, and the
value of its first charset. The media type that has been read is read as itself. -/
theorem parse_of_spells (spells : Spells contentType media parameters) (bare : ';' ∉ media.toList)
    (proper : ∀ p ∈ parameters, IsParameter p) :
    parse contentType = ⟨Text.lower (Text.trim media), charset? parameters⟩ ∧
      parse (parse contentType).media = ⟨(parse contentType).media, none⟩ := by
  have read : parse contentType = ⟨Text.lower (Text.trim media), charset? parameters⟩ := by
    obtain @⟨m, written, parts, same, spaced, spelled, joined, rfl⟩ := spells
    have each : ∀ part ∈ parts, ∀ p, part.2 = some p → IsParameter p :=
      fun part member p is => proper p (List.mem_filterMap.2 ⟨part, member, is⟩)
    have free : ∀ piece ∈ m :: parts.map (·.1), ';' ∉ piece := by
      rw [List.forall_mem_cons, List.forall_mem_map]
      refine ⟨spaced.not_mem isBlank_semicolon ((Text.mem_of_same (by decide) same).not.2 bare), ?_⟩
      exact fun part member => (spelled part member).noSemicolon (each part member)
    have split := Text.splitChars_intercalate (List.cons_ne_nil m _) free
    simp [parse, Text.splitOn, joined, split, lower_trim_of_same spaced same, Function.comp_def,
      ← findSome?_charsetOf spelled each]
  refine ⟨read, ?_⟩
  have bare' : ';' ∉ (Text.lower (Text.trim media)).toList := by
    rwa [Text.mem_lower_trim (by decide) isBlank_semicolon]
  rw [read, parse_of_bare bare', Text.trim_lower, Text.trim_trim, Text.lower_lower]

/-- A content type with two charsets, parts that say nothing and a value that holds a separator. -/
def latin : String :=
  " Text/HTML ;; level ; Q = a=b;CHARSET = \x22ISO-8859-1\x22 ; charset=utf-8"

theorem spells_latin :
    Spells latin "text/html" [("q", "a=b"), ("charset", "ISO-8859-1"), ("charset", "utf-8")] := by
  have blanks : ∀ c ∈ [' '] ++ [' '], Text.isBlank c = true := List.all_eq_true.1 (by decide)
  have blank : ∀ c ∈ [' '], Text.isBlank c = true := List.all_eq_true.1 (by decide)
  have media : Spaced " Text/HTML ".toList "Text/HTML" := ⟨[' '], [' '], blanks, by decide⟩
  have level : SpellsParameter " level ".toList none := .other (by decide)
  have quality : SpellsParameter " Q = a=b".toList (some ("q", "a=b")) := by
    have key : Spaced " Q ".toList "Q" := ⟨[' '], [' '], blanks, by decide⟩
    have value : Spaced " a=b".toList "a=b" := ⟨[' '], [], blank, by decide⟩
    exact .pair (by decide) key (.bare value)
  have quoted : SpellsParameter "CHARSET = \x22ISO-8859-1\x22 ".toList
      (some ("charset", "ISO-8859-1")) := by
    have key : Spaced "CHARSET ".toList "CHARSET" := ⟨[], [' '], blank, by decide⟩
    have value : Spaced " \x22ISO-8859-1\x22 ".toList ("\x22" ++ "ISO-8859-1" ++ "\x22") :=
      ⟨[' '], [' '], blanks, by decide⟩
    exact .pair (by decide) key (.quoted value)
  have bare : SpellsParameter " charset=utf-8".toList (some ("charset", "utf-8")) := by
    have key : Spaced " charset".toList "charset" := ⟨[' '], [], blank, by decide⟩
    have value : Spaced "utf-8".toList "utf-8" := ⟨[], [], by simp, by decide⟩
    exact .pair (by decide) key (.bare value)
  have parts : ∀ part ∈ [([], none), (" level ".toList, none),
      (" Q = a=b".toList, some ("q", "a=b")),
      ("CHARSET = \x22ISO-8859-1\x22 ".toList, some ("charset", "ISO-8859-1")),
      (" charset=utf-8".toList, some ("charset", "utf-8"))], SpellsParameter part.1 part.2 := by
    simp only [List.forall_mem_cons, List.not_mem_nil, false_imp_iff, implies_true, and_true]
    exact ⟨.other (by simp), level, quality, quoted, bare⟩
  exact .parts (by decide) media parts (by decide) rfl

theorem parse_of_spells_latin :
    (∀ p ∈ [("q", "a=b"), ("charset", "ISO-8859-1"), ("charset", "utf-8")], IsParameter p) ∧
      parse latin = ⟨"text/html", some "ISO-8859-1"⟩ ∧ parse "text/html" = ⟨"text/html", none⟩ := by
  have proper : ∀ p ∈ [("q", "a=b"), ("charset", "ISO-8859-1"), ("charset", "utf-8")],
      IsParameter p := by
    simp only [List.forall_mem_cons, List.not_mem_nil, false_imp_iff, implies_true, and_true]
    -- The blanks of a text are looked for in its list, not among all characters.
    have visible : ∀ s : String, s.toList.any Text.isBlank = false →
        ∀ c ∈ s.toList, Text.isBlank c = false := fun s none => by simpa using none
    exact ⟨⟨by decide, visible "q" (by decide), by decide, visible "a=b" (by decide)⟩,
      ⟨by decide, visible "charset" (by decide), by decide, visible "ISO-8859-1" (by decide)⟩,
      ⟨by decide, visible "charset" (by decide), by decide, visible "utf-8" (by decide)⟩⟩
  obtain ⟨read, again⟩ := parse_of_spells spells_latin (by decide) proper
  have media : Text.lower (Text.trim "text/html") = "text/html" := by decide
  have charset : charset? [("q", "a=b"), ("charset", "ISO-8859-1"), ("charset", "utf-8")] =
      some "ISO-8859-1" := by decide
  rw [media, charset] at read
  rw [read] at again
  exact ⟨proper, read, again⟩

end Transclusion.MediaType
