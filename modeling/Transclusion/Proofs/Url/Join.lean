import Transclusion.Proofs.Url.Path

/-!
# Joining URLs

Where a reference leads that is resolved against a URL. A scheme at its start always becomes the
scheme of the result, and two slashes at its start are followed by a host. Any other reference stays
with the origin of the URL, and in its directory unless it starts with a slash or climbs.

## Main results

`parse_scheme`: a scheme at the start of a text is that of the result, whatever the base.
`relative_sameOrigin`, `relative_below`: references that name neither a scheme nor a host.
-/

namespace Transclusion.Url

/-- Whether two URLs have the same scheme, host and port. -/
def SameOrigin (url other : Url) : Prop :=
  url.scheme = other.scheme ∧ url.host = other.host ∧ url.port = other.port

instance (url other : Url) : Decidable (url.SameOrigin other) :=
  inferInstanceAs (Decidable (_ ∧ _ ∧ _))

/-! ### Schemes -/

private theorem exists_of_bind {ε α β : Type} {x : Except ε α} {f : α → Except ε β} {b : β}
    (bound : (x >>= f) = .ok b) : ∃ a, x = .ok a ∧ f a = .ok b := by
  cases x with
  | error fault => cases bound
  | ok a => exact ⟨a, rfl, bound⟩

theorem authority_ok {scheme : String} {s : Split} {cs : List Char} {url : Url}
    (read : authority scheme s cs = .ok url) :
    url.scheme = scheme ∧ ∃ segments, url.path = .rooted segments := by
  unfold authority at read
  dsimp only at read
  split at read
  all_goals
    split at read
    · cases read
    · split at read
      · cases read
      · split at read
        all_goals
          obtain ⟨host, -, read⟩ := exists_of_bind read
          split at read
          all_goals
            obtain ⟨port, -, read⟩ := exists_of_bind read
            cases read
            refine ⟨rfl, ?_⟩
            dsimp only
            split <;> exact ⟨_, rfl⟩

theorem fileHost_scheme {s : Split} {cs : List Char} {url : Url} (read : fileHost s cs = .ok url) :
    url.scheme = "file" := by
  unfold fileHost at read
  dsimp only at read
  split at read
  · cases read
    rfl
  · split at read
    all_goals
      obtain ⟨host, -, read⟩ := exists_of_bind read
      cases read
      rfl

theorem file_scheme {base : Option Url} {s : Split} {url : Url}
    (filed : ∀ b, base = some b → b.scheme = "file") (read : file base s = .ok url) :
    url.scheme = "file" := by
  unfold file at read
  split at read
  · split at read
    · cases read
      rfl
    next b =>
      cases read
      exact filed b rfl
  · split at read
    · split at read
      · split at read
        · exact fileHost_scheme read
        · cases read
          rfl
      · cases read
        rfl
    · split at read
      · cases read
        rfl
      · split at read
        all_goals
          cases read
          rfl

theorem relative_scheme {base : Url} {s : Split} {url : Url} (read : relative base s = .ok url) :
    url.scheme = base.scheme := by
  unfold relative at read
  dsimp only at read
  split at read
  · cases read
    rfl
  · split at read
    · split at read
      · split at read
        · exact (authority_ok read).1
        · cases read
          rfl
      · cases read
        rfl
    · cases read
      rfl

theorem free_scheme {scheme : String} {s : Split} {url : Url} (read : free scheme s = .ok url) :
    url.scheme = scheme := by
  unfold free at read
  split at read
  · exact (authority_ok read).1
  · cases read
    rfl
  · cases read
    rfl

theorem parse_scheme {base : Option Url} {text scheme : String} {rest : List Char} {url : Url}
    (named : scheme? (clean text.toList) = some (scheme, rest)) (read : parse base text = .ok url) :
    url.scheme = scheme := by
  unfold parse at read
  simp only [named] at read
  by_cases filed : scheme = "file"
  · rw [if_pos filed] at read
    rw [filed]
    refine file_scheme (fun b found => ?_) read
    exact beq_iff_eq.1 (Option.filter_eq_some_iff.1 found).2
  · rw [if_neg filed] at read
    by_cases special : isSpecial scheme = true
    · rw [if_pos special] at read
      split at read
      next b found =>
        obtain ⟨same, -⟩ := Bool.and_eq_true_iff.1 (Option.filter_eq_some_iff.1 found).2
        rw [relative_scheme read]
        exact beq_iff_eq.1 same
      next => exact (authority_ok read).1
    · rw [if_neg special] at read
      exact free_scheme read

/-- A text that is read by itself gives a path with a root if its scheme is a special one. -/
theorem rooted_of_parse {text : String} {url : Url} (read : parse none text = .ok url)
    (special : isSpecial url.scheme = true) (noFile : url.scheme ≠ "file") :
    ∃ segments, url.path = .rooted segments := by
  cases named : scheme? (clean text.toList) with
  | none =>
    simp only [parse, named] at read
    cases read
  | some found =>
    obtain ⟨scheme, rest⟩ := found
    obtain rfl := parse_scheme named read
    simp only [parse, named, if_neg noFile, if_pos special, Option.filter_none] at read
    exact (authority_ok read).2

/-! ### References without a scheme -/

/-- Whether a reference starts with a slash, which may be a backslash. -/
def startsWithSlash : List Char → Bool
  | c :: _ => isSlash true c
  | [] => false

/-- Whether a reference starts with two slashes, of which each may be a backslash. -/
def namesHost : List Char → Bool
  | c :: d :: _ => isSlash true c && isSlash true d
  | _ => false

theorem join_of_schemeless {base : Url} {segments : List String} {reference : String}
    (rooted : base.path = .rooted segments) (noFile : base.scheme ≠ "file")
    (schemeless : scheme? (clean reference.toList) = none) :
    base.join reference = relative base (split (clean reference.toList)) := by
  simp only [join, parse, schemeless, rooted, if_neg noFile]

theorem relative_sameOrigin (base : Url) {s : Split} (hostless : namesHost s.body = false) :
    ∃ url, relative base s = .ok url ∧ url.SameOrigin base := by
  unfold relative
  dsimp only
  split
  next => exact ⟨_, rfl, rfl, rfl, rfl⟩
  next c cs body =>
    by_cases slash : (c == '/' || c == '\\') = true
    · rw [if_pos slash]
      split
      next d more =>
        rw [body] at hostless
        have single : (d == '/' || d == '\\') = false := by
          simpa [namesHost, isSlash, slash] using hostless
        rw [if_neg (Bool.not_eq_true _ ▸ single)]
        exact ⟨_, rfl, rfl, rfl, rfl⟩
      next => exact ⟨_, rfl, rfl, rfl, rfl⟩
    · rw [if_neg slash]
      exact ⟨_, rfl, rfl, rfl, rfl⟩

theorem relative_below {base url : Url} {dir : List String} {s : Split}
    (directory : base.path = .rooted (dir ++ [""]))
    (slashless : startsWithSlash s.body = false)
    (descending : descends 0 (pieces (isSpecial base.scheme) s.body) = true)
    (read : relative base s = .ok url) :
    base.path.render.toList <+: url.path.render.toList := by
  unfold relative at read
  dsimp only at read
  split at read
  next =>
    cases read
    exact List.prefix_rfl
  next c cs body =>
    rw [body] at slashless
    have plain : (c == '/' || c == '\\') = false := slashless
    rw [if_neg (Bool.not_eq_true _ ▸ plain)] at read
    cases read
    -- The last segment of the base is empty, and the walk starts where it stood.
    have walked := walk_append dir [] _ descending
    rw [List.append_nil] at walked
    obtain ⟨rest, written⟩ := render_append dir (walk_ne_nil [] (pieces_ne_nil _ s.body))
    rw [directory]
    simp only [UrlPath.segments, List.dropLast_concat, readPath]
    rw [walked, written, String.toList_append]
    exact List.prefix_append _ _

end Transclusion.Url
