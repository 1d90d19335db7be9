import Transclusion.Proofs.Url.Authority
import Transclusion.Proofs.Url.Join
import Transclusion.Reference

/-!
# Reading back references

A reference is written as a path and, behind a question mark, its form-coded pairs. It is read as this
path and these pairs, whatever blanks stand around it, whichever fragment behind it and whichever
scheme and host in front of it.

## Main results

`ReferenceText.parseReference_text`: a written reference is read as its path and its pairs.
-/

namespace Transclusion

/-! ### Signs -/

/-- A letter, a digit or one of the four marks that no part of a URL gives a meaning to. -/
def isUnreserved (c : Char) : Bool := c.isAlphanum || "-._~".toList.contains c

/-- Whether a character is neither a blank nor a control nor beyond ASCII. -/
def isVisible (c : Char) : Bool := 0x20 < c.toNat && c.toNat < 0x7F

theorem blank_of_isVisible : ∀ c, isVisible c = true →
    Text.isBlank c = false ∧ Url.isEdge c = false ∧ c ≠ '\t' ∧ c ≠ '\n' ∧ c ≠ '\r' := by
  refine forall_of_ascii (fun c visible => ?_) (by decide +kernel)
  simp only [isVisible, Bool.and_eq_true, decide_eq_true_eq] at visible
  omega

/-- What neither separates anything in a path nor is coded there. -/
structure IsPathSign (c : Char) : Prop where
  visible : isVisible c = true
  uncoded : Percent.inPath c = false
  free : c ∉ ['#', '?', '%', '/', '\\']

instance (c : Char) : Decidable (IsPathSign c) :=
  decidable_of_iff (isVisible c = true ∧ Percent.inPath c = false ∧ c ∉ ['#', '?', '%', '/', '\\'])
    ⟨fun ⟨visible, uncoded, free⟩ => ⟨visible, uncoded, free⟩,
      fun ⟨visible, uncoded, free⟩ => ⟨visible, uncoded, free⟩⟩

theorem isPathSign_of_isUnreserved : ∀ c, isUnreserved c = true → IsPathSign c := by
  refine forall_of_ascii (fun c plain => ?_) (by decide +kernel)
  simp only [isUnreserved, Bool.or_eq_true, List.contains_iff_mem] at plain
  rcases plain with sign | mark
  · exact toNat_lt_of_isAlphanum c sign
  · simpa using List.all_eq_true.1 (by decide : "-._~".toList.all (·.toNat < 128) = true) c mark

/-- What a query is written with neither ends it nor is coded in it. -/
theorem query_of_isWritten : ∀ c, Form.isWritten c = true →
    isVisible c = true ∧ Percent.inQuery true c = false ∧ c ≠ '#' := by
  refine forall_of_ascii (fun c written => ?_) (by decide +kernel)
  simp only [Form.isWritten, Form.isSign, Bool.or_eq_true, List.contains_iff_mem,
    beq_iff_eq] at written
  rcases written with ((sign | mark) | rfl) | rfl
  · exact toNat_lt_of_isAlphanum c sign
  · simpa using List.all_eq_true.1 (by decide : "*-._+%".toList.all (·.toNat < 128) = true) c mark
  · decide
  · decide

namespace Url

theorem clean_of_visible {cs : List Char} (visible : ∀ c ∈ cs, isVisible c = true) :
    clean cs = cs := by
  have edgeless : ∀ c ∈ cs, isEdge c = false := fun c member =>
    (blank_of_isVisible c (visible c member)).2.1
  rw [clean, Text.dropWhile_of_forall edgeless, Text.dropEndWhile_of_forall edgeless,
    List.filter_eq_self]
  intro c member
  simp [blank_of_isVisible c (visible c member)]

/-- A text with a query and a fragment, either of which may be missing, is split into these. -/
theorem split_append {body : List Char} (query fragment : Option (List Char))
    (unended : '#' ∉ body) (unasked : '?' ∉ body) (inside : ∀ q ∈ query, '#' ∉ q) :
    split (body ++ (query.map ('?' :: ·)).getD [] ++ (fragment.map ('#' :: ·)).getD []) =
      ⟨body, query, fragment⟩ := by
  -- The fragment is cut off first, so its sign may not stand in the query either.
  have front : '#' ∉ body ++ (query.map ('?' :: ·)).getD [] := by
    cases query with
    | none => simpa using unended
    | some q => simpa using ⟨unended, inside q rfl⟩
  have asked : Text.cutChars '?' (body ++ (query.map ('?' :: ·)).getD []) =
      query.map fun q => (body, q) := by
    cases query with
    | none => simpa using Text.cutChars_of_not_mem unasked
    | some q => exact Text.cutChars_append unasked q
  unfold split
  cases fragment with
  | none =>
    simp only [Option.map_none, Option.getD_none, List.append_nil, Text.cutChars_of_not_mem front,
      asked]
    cases query <;> simp
  | some f =>
    simp only [Option.map_some, Option.getD_some, Text.cutChars_append front, asked]
    cases query <;> simp

theorem relative_rooted {base : Url} {s : Split} {d : Char} {cs : List Char}
    (body : s.body = '/' :: d :: cs) (single : isSlash true d = false) :
    relative base s = .ok { base with
      path := readPath (isSpecial base.scheme) [] (d :: cs)
      query := s.codedQuery (isSpecial base.scheme)
      fragment := s.codedFragment } := by
  have other : (d == '/' || d == '\\') = false := single
  simp [relative, body, other]

theorem scheme?_web {scheme : String} (web : scheme = "http" ∨ scheme = "https")
    (rest : List Char) : scheme? (scheme.toList ++ ':' :: rest) = some (scheme, rest) := by
  rcases web with rfl | rfl <;> simp [scheme?, inScheme, List.dropWhile, List.takeWhile]

/-- With two slashes behind a special scheme the base does not count. -/
theorem parse_absolute {base : Option Url} {text scheme : String} {rest cs : List Char} {c : Char}
    (named : scheme? (clean text.toList) = some (scheme, rest)) (special : isSpecial scheme = true)
    (noFile : scheme ≠ "file") (body : (split rest).body = '/' :: '/' :: c :: cs)
    (single : isSlash true c = false) :
    parse base text = authority scheme (split rest) (c :: cs) := by
  have stop : (c == '/' || c == '\\') = false := single
  simp [parse, named, noFile, special, body, stop]

end Url

/-! ### Written references -/

/-- A segment that stands for itself wherever a path is written. -/
structure IsPlainSegment (s : String) : Prop where
  unreserved : ∀ c ∈ s.toList, isUnreserved c = true
  nonempty : s ≠ ""
  notHere : s ≠ "."
  notAbove : s ≠ ".."

theorem IsPlainSegment.signs {s : String} (plain : IsPlainSegment s) :
    ∀ c ∈ s.toList, IsPathSign c :=
  fun c member => isPathSign_of_isUnreserved c (plain.unreserved c member)

/-- A scheme and a host that may stand in front of a path. -/
structure WebOrigin where
  scheme : String
  host : String
  web : scheme = "http" ∨ scheme = "https"
  named : host ≠ ""
  letters : ∀ c ∈ host.toList, c.isAlpha = true

/-- A reference in the parts that it is written from. Only the path and the pairs say what it refers
to; the blanks, the origin and the fragment may be anything that can stand there. -/
structure ReferenceText where
  before : String
  origin : Option WebOrigin
  segments : List String
  pairs : Parameters
  fragment : Option String
  after : String
  blankBefore : ∀ c ∈ before.toList, Text.isBlank c = true
  nonempty : segments ≠ []
  plain : ∀ s ∈ segments, IsPlainSegment s
  unreserved : ∀ f ∈ fragment, ∀ c ∈ f.toList, isUnreserved c = true
  blankAfter : ∀ c ∈ after.toList, Text.isBlank c = true

namespace WebOrigin

def text (o : WebOrigin) : String := o.scheme ++ "://" ++ o.host

theorem toList_text (o : WebOrigin) :
    o.text.toList = o.scheme.toList ++ ':' :: '/' :: '/' :: o.host.toList := by
  simp [text]

theorem host_signs (o : WebOrigin) : ∀ c ∈ o.host.toList, IsPathSign c := by
  intro c member
  apply isPathSign_of_isUnreserved
  simp [isUnreserved, Char.isAlphanum, o.letters c member]

theorem visible_text (o : WebOrigin) : ∀ c ∈ o.text.toList, isVisible c = true := by
  have host : ∀ c ∈ o.host.toList, isVisible c = true := fun c member =>
    (o.host_signs c member).visible
  have scheme : ∀ c ∈ o.scheme.toList, isVisible c = true := by
    rw [← List.all_eq_true]
    rcases o.web with web | web <;> rw [web] <;> decide
  rw [toList_text]
  simp only [List.forall_mem_append, List.forall_mem_cons]
  exact ⟨scheme, by decide, by decide, by decide, host⟩

end WebOrigin

namespace ReferenceText

variable (r : ReferenceText)

/-- The path of a reference, without a slash in front. -/
def path : String := String.intercalate "/" r.segments

/-- The query of a reference; without pairs it has none. -/
def query : Option String :=
  if r.pairs = [] then none else some (String.ofList (Form.render r.pairs))

/-- A reference as it is written. -/
def text : String :=
  r.before ++ (r.origin.map WebOrigin.text).getD "" ++ "/" ++ r.path ++
    (r.query.map ("?" ++ ·)).getD "" ++ (r.fragment.map ("#" ++ ·)).getD "" ++ r.after

/-! ### The path -/

theorem toList_path : r.path.toList = List.intercalate ['/'] (r.segments.map String.toList) := by
  simp [path, String.toList_intercalate]

theorem path_signs : ∀ c ∈ r.path.toList, c = '/' ∨ IsPathSign c := by
  intro c member
  rw [toList_path] at member
  rcases Text.of_mem_intercalate member with slash | ⟨piece, written, inside⟩
  · exact .inl slash
  · obtain ⟨segment, listed, rfl⟩ := List.mem_map.1 written
    exact .inr ((r.plain segment listed).signs c inside)

theorem exists_path : ∃ c cs, r.path.toList = c :: cs ∧ IsPathSign c := by
  -- The first segment is not empty, so the path starts with one of its signs.
  obtain ⟨segment, segments, listed⟩ := List.exists_cons_of_ne_nil r.nonempty
  have plain := r.plain segment (by simp [listed])
  obtain ⟨c, cs, chars⟩ := List.exists_cons_of_ne_nil
    (fun empty => plain.nonempty (String.toList_eq_nil_iff.1 empty))
  have sign := plain.signs c (by simp [chars])
  rw [toList_path, listed, List.map_cons, chars]
  cases segments with
  | nil => exact ⟨c, cs, by simp, sign⟩
  | cons next segments => exact ⟨c, _, by rw [List.map_cons, List.intercalate_cons_cons]; rfl, sign⟩

theorem isPlainPiece_of_mem {p : List Char} (member : p ∈ r.segments.map String.toList) :
    Url.IsPlainPiece p := by
  obtain ⟨segment, listed, rfl⟩ := List.mem_map.1 member
  have plain := r.plain segment listed
  constructor
  · exact fun here => plain.notHere (String.toList_inj.1 here)
  · exact fun above => plain.notAbove (String.toList_inj.1 above)
  · exact fun percent => (plain.signs _ percent).free (by decide)
  · exact Percent.encode_of_forall fun c inside => (plain.signs c inside).uncoded

theorem readPath_path : Url.readPath true [] r.path.toList = .rooted r.segments := by
  -- A backslash would separate segments as well.
  have forward : '\\' ∉ r.path.toList := fun back => by
    rcases r.path_signs _ back with slash | sign
    · cases slash
    · exact sign.free (by decide)
  have unslashed : ∀ p ∈ r.segments.map String.toList, '/' ∉ p := by
    simp only [List.forall_mem_map]
    intro segment listed slash
    exact ((r.plain segment listed).signs _ slash).free (by decide)
  rw [Url.readPath, Url.pieces_eq_splitChars true forward, toList_path,
    Text.splitChars_intercalate (by simpa using r.nonempty) unslashed,
    Url.walk_plain [] fun p member => r.isPlainPiece_of_mem member]
  simp [Function.comp_def]

theorem dropSlashes_render : Text.dropSlashes (UrlPath.rooted r.segments).render = r.path := by
  obtain ⟨c, cs, chars, sign⟩ := r.exists_path
  have bare : r.path.toList.head? ≠ some '/' := by
    rw [chars, List.head?_cons, Ne, Option.some.injEq]
    exact fun slash => sign.free (by simp [slash])
  have once : Text.dropSlashes ("/" ++ r.path) = Text.dropSlashes r.path := by
    simp [Text.dropSlashes, Text.dropStart]
  rw [Url.render_rooted r.nonempty]
  exact once.trans (Text.dropSlashes_eq_self bare)

/-! ### The query and the fragment -/

theorem query_signs : ∀ q ∈ r.query, ∀ c ∈ q.toList, Form.isWritten c = true := by
  intro q found c member
  simp only [query, Option.mem_def, Option.ite_none_left_eq_some, Option.some.injEq] at found
  rw [← found.2, String.toList_ofList] at member
  exact Form.isWritten_of_mem_render member

theorem parse_query : (r.query.map fun q => Form.parse q.toList).getD [] = r.pairs := by
  by_cases unasked : r.pairs = []
  · simp [query, unasked]
  · simp [query, unasked, Form.parse_render]

/-- The query and the fragment of a reference as they are written. -/
def trail : List Char :=
  ((r.query.map String.toList).map ('?' :: ·)).getD [] ++
    ((r.fragment.map String.toList).map ('#' :: ·)).getD []

theorem visible_trail : ∀ c ∈ r.trail, isVisible c = true := by
  rw [trail, List.forall_mem_append]
  constructor
  · cases asked : r.query with
    | none => simp
    | some q =>
      have signs := r.query_signs q asked
      simpa using ⟨by decide, fun c member => (query_of_isWritten c (signs c member)).1⟩
  · cases ended : r.fragment with
    | none => simp
    | some f =>
      have signs := r.unreserved f ended
      simpa using ⟨by decide, fun c member => (isPathSign_of_isUnreserved c (signs c member)).visible⟩

/-- What is written before the query is read apart from it and from the fragment. -/
theorem split_trail {body : List Char} (unended : '#' ∉ body) (unasked : '?' ∉ body) :
    Url.split (body ++ r.trail) =
      ⟨body, r.query.map String.toList, r.fragment.map String.toList⟩ := by
  have inside : ∀ q ∈ r.query.map String.toList, '#' ∉ q := by
    intro chars found sign
    obtain ⟨q, asked, rfl⟩ := Option.map_eq_some_iff.1 found
    exact (query_of_isWritten _ (r.query_signs q asked _ sign)).2.2 rfl
  rw [trail, ← List.append_assoc]
  exact Url.split_append _ _ unended unasked inside

theorem codedQuery (body : List Char) (fragment : Option (List Char)) :
    Url.Split.codedQuery ⟨body, r.query.map String.toList, fragment⟩ true = r.query := by
  cases asked : r.query with
  | none => rfl
  | some q =>
    have uncoded : Percent.encode (Percent.inQuery true) q.toList = q.toList :=
      Percent.encode_of_forall fun c member =>
        (query_of_isWritten c (r.query_signs q asked c member)).2.1
    simp [Url.Split.codedQuery, uncoded]

/-! ### The whole text -/

/-- The scheme and the host of a reference as they are written. -/
def front : String := (r.origin.map WebOrigin.text).getD ""

theorem visible_front : ∀ c ∈ r.front.toList, isVisible c = true := by
  rw [front]
  cases r.origin with
  | none => simp
  | some o => exact o.visible_text

/-- A reference without the blanks around it. -/
def core : List Char := r.front.toList ++ '/' :: r.path.toList ++ r.trail

theorem visible_core : ∀ c ∈ r.core, isVisible c = true := by
  have path : ∀ c ∈ r.path.toList, isVisible c = true := by
    intro c member
    rcases r.path_signs c member with rfl | sign
    · decide
    · exact sign.visible
  simp only [core, List.forall_mem_append, List.forall_mem_cons]
  exact ⟨⟨r.visible_front, by decide, path⟩, r.visible_trail⟩

theorem clean_core : Url.clean (String.ofList r.core).toList = r.core := by
  rw [String.toList_ofList, Url.clean_of_visible r.visible_core]

theorem trim_text : Text.trim r.text = String.ofList r.core := by
  -- The parts that may be missing are written in the same place whether they are or not.
  have whole : r.text.toList = r.before.toList ++ (r.core ++ r.after.toList) := by
    cases asked : r.query <;> cases ended : r.fragment <;>
      simp [text, core, front, trail, asked, ended]
  have visible : ∀ c ∈ r.core, Text.isBlank c = false := fun c member =>
    (blank_of_isVisible c (r.visible_core c member)).1
  rw [Text.trim, whole, Text.trimChars_append_left r.blankBefore,
    Text.trimChars_append_right r.blankAfter, Text.trimChars_of_visible visible]

theorem path_unsplit : '#' ∉ '/' :: r.path.toList ∧ '?' ∉ '/' :: r.path.toList := by
  have path : ∀ c ∈ ['#', '?'], c ∉ '/' :: r.path.toList := by
    intro c mark member
    rcases List.mem_cons.1 member with rfl | inside
    · exact absurd mark (by decide)
    · rcases r.path_signs c inside with rfl | sign
      · exact absurd mark (by decide)
      · exact sign.free (List.mem_append_left ['%', '/', '\\'] mark)
  exact ⟨path '#' (by decide), path '?' (by decide)⟩

/-- Without a scheme a reference takes everything but its path and query from the root. -/
theorem join_plain (plain : r.origin = none) : ∃ url,
    internalRoot.join (String.ofList r.core) = .ok url ∧ url.path = .rooted r.segments ∧
      url.query = r.query := by
  obtain ⟨unended, unasked⟩ := r.path_unsplit
  obtain ⟨c, cs, chars, sign⟩ := r.exists_path
  have core : r.core = '/' :: r.path.toList ++ r.trail := by simp [core, front, plain]
  have schemeless : Url.scheme? (Url.clean (String.ofList r.core).toList) = none := by
    rw [r.clean_core, core]
    rfl
  -- A second slash would make a host of the first segment.
  have single : Url.isSlash true c = false := by
    have free := sign.free
    simp at free
    simp [Url.isSlash, free]
  have rooted : internalRoot.path = .rooted [""] := rfl
  have noFile : internalRoot.scheme ≠ "file" := by decide
  rw [Url.join_of_schemeless rooted noFile schemeless, r.clean_core, core,
    r.split_trail unended unasked, Url.relative_rooted (by rw [chars]) single]
  refine ⟨_, rfl, ?_, ?_⟩
  · rw [← chars]
    exact r.readPath_path
  · exact r.codedQuery _ _

/-- With a scheme and a host a reference is a URL by itself, also where the scheme is that of the
root. -/
theorem join_web {o : WebOrigin} (web : r.origin = some o) : ∃ url,
    internalRoot.join (String.ofList r.core) = .ok url ∧ url.path = .rooted r.segments ∧
      url.query = r.query := by
  obtain ⟨unended, unasked⟩ := r.path_unsplit
  have hostless : ∀ mark ∈ ['#', '?'], mark ∉ o.host.toList := fun mark marked member =>
    (o.host_signs mark member).free (List.mem_append_left ['%', '/', '\\'] marked)
  have named : o.host.toList ≠ [] := fun empty => o.named (String.toList_eq_nil_iff.1 empty)
  have special : Url.isSpecial o.scheme = true := by
    rcases o.web with web | web <;> rw [web] <;> decide
  have noFile : o.scheme ≠ "file" := by
    rcases o.web with web | web <;> rw [web] <;> decide
  have core : r.core =
      o.scheme.toList ++ ':' :: ('/' :: '/' :: o.host.toList ++ '/' :: r.path.toList ++ r.trail) := by
    simp [ReferenceText.core, front, web, o.toList_text]
  have split : Url.split ('/' :: '/' :: o.host.toList ++ '/' :: r.path.toList ++ r.trail) =
      ⟨'/' :: '/' :: o.host.toList ++ '/' :: r.path.toList, r.query.map String.toList,
        r.fragment.map String.toList⟩ :=
    r.split_trail (by simpa using ⟨hostless '#' (by simp), by simpa using unended⟩)
      (by simpa using ⟨hostless '?' (by simp), by simpa using unasked⟩)
  have schemed := Url.scheme?_web o.web
    ('/' :: '/' :: o.host.toList ++ '/' :: r.path.toList ++ r.trail)
  rw [← core, ← r.clean_core] at schemed
  -- The host is not empty, so no third slash follows the two that keep the root out.
  obtain ⟨c, cs, chars⟩ := List.exists_cons_of_ne_nil named
  have single := (Url.authority_of_isAlpha c (o.letters c (by simp [chars]))).1
  have address : o.host.toList ++ '/' :: r.path.toList = c :: (cs ++ '/' :: r.path.toList) := by
    rw [chars, List.cons_append]
  rw [Url.join, Url.parse_absolute schemed special noFile (by rw [split, ← address]; rfl) single,
    ← address, Url.authority_of_letters special named o.letters, split]
  exact ⟨_, rfl, r.readPath_path, r.codedQuery _ _⟩

/-- A written reference is read as its path and its pairs. -/
theorem parseReference_text : parseReference r.text = (r.path, r.pairs) := by
  -- Whichever way the text is joined, only its own path and query are left of the root.
  have joined : ∃ url, internalRoot.join (String.ofList r.core) = .ok url ∧
      url.path = .rooted r.segments ∧ url.query = r.query := by
    cases web : r.origin with
    | none => exact r.join_plain web
    | some o => exact r.join_web web
  obtain ⟨url, joined, path, query⟩ := joined
  simp only [parseReference, r.trim_text, joined, path, query, r.dropSlashes_render, r.parse_query]

/-- A reference in which no part is missing, with an empty pair, a key that comes again, and a value
of signs that separate something elsewhere. -/
def elsewhere : ReferenceText where
  before := " \t"
  origin := some ⟨"https", "Elsewhere", .inr rfl, by decide, List.all_eq_true.1 (by decide)⟩
  segments := ["a-b", "...", "~"]
  pairs := [("q", "\u00e9 +&=#%"), ("", ""), ("q", "")]
  fragment := some "top"
  after := "\u3000\n"
  blankBefore := List.all_eq_true.1 (by decide)
  nonempty := by decide
  plain := by
    simp only [List.forall_mem_cons, List.not_mem_nil, false_imp_iff, implies_true, and_true]
    refine ⟨?_, ?_, ?_⟩ <;>
      exact ⟨List.all_eq_true.1 (by decide), by decide, by decide, by decide⟩
  unreserved := by
    rintro _ ⟨⟩
    exact List.all_eq_true.1 (by decide)
  blankAfter := List.all_eq_true.1 (by decide)

theorem parseReference_text_elsewhere :
    elsewhere.text =
        " \thttps://Elsewhere/a-b/.../~?q=%C3%A9+%2B%26%3D%23%25&=&q=#top\u3000\n" ∧
      parseReference elsewhere.text =
        ("a-b/.../~", [("q", "\u00e9 +&=#%"), ("", ""), ("q", "")]) :=
  ⟨by decide +kernel, elsewhere.parseReference_text⟩

end ReferenceText

end Transclusion
