import Transclusion.Backend
import Transclusion.Proofs.Url.Join

/-!
# Staying with the backend

Resource paths are resolved against the base of the backend as references. As long as a path is
read as a path, the request goes to the server of the base, and below its directory unless the path
climbs. But a path that starts with a scheme is read as a URL, and leaves the base behind.

## Main results

`urlFor_sameOrigin_of_path`: where paths lead, and where texts with a scheme do.
`urlFor_leaves_origin`: the path of a request, or of a reference, may lead to any other server.
-/

namespace Transclusion.Backend

/-- A resource path as it is read. -/
def reference (uri : String) : List Char := Url.clean (Text.dropSlashes uri).toList

theorem join_eq_of_urlFor {b : Backend} {uri : String} {url : Url} (found : b.urlFor uri = .ok url) :
    b.base.join (Text.dropSlashes uri) = .ok url := by
  unfold urlFor at found
  split at found
  next other joined =>
    cases found
    exact joined
  next => cases found

theorem urlFor_of_join {b : Backend} {uri : String} {url : Url}
    (joined : b.base.join (Text.dropSlashes uri) = .ok url) : b.urlFor uri = .ok url := by
  simp only [urlFor, joined]

theorem special_of_connectable {scheme : String} (web : scheme ∈ connectable) :
    Url.isSpecial scheme = true ∧ scheme ≠ "file" := by
  simp only [connectable, List.mem_cons, List.not_mem_nil, or_false] at web
  rcases web with rfl | rfl <;> decide

/-- The base of a backend that can be connected to is a directory. -/
theorem base_directory {text : String} {b : Backend} (accepted : parse? text = some b)
    (web : b.base.scheme ∈ connectable) : ∃ dir, b.base.path = .rooted (dir ++ [""]) := by
  unfold parse? at accepted
  split at accepted
  next url read =>
    cases accepted
    obtain ⟨special, noFile⟩ := special_of_connectable web
    obtain ⟨segments, rooted⟩ := Url.rooted_of_parse read special noFile
    simp only [rooted, UrlPath.closed]
    by_cases closed : segments.getLast? = some ""
    · rw [if_pos closed]
      obtain ⟨dir, rfl⟩ := List.getLast?_eq_some_iff.1 closed
      exact ⟨dir, rfl⟩
    · rw [if_neg closed]
      exact ⟨segments, rfl⟩
  next => cases accepted

/-- A path that starts with neither a scheme nor two slashes always leads to the server of the base,
and stays below the path of the base if it does not start with a slash and does not climb. A text
that starts with a scheme never leads to a server of another scheme. -/
theorem urlFor_sameOrigin_of_path {text : String} {b : Backend} (accepted : parse? text = some b)
    (web : b.base.scheme ∈ connectable) (uri : String) :
    (Url.scheme? (reference uri) = none →
      Url.namesHost (Url.split (reference uri)).body = false →
      ∃ url, b.urlFor uri = .ok url ∧ url.SameOrigin b.base ∧
        (Url.startsWithSlash (Url.split (reference uri)).body = false →
          Url.descends 0 (Url.pieces true (Url.split (reference uri)).body) = true →
          b.base.path.render.toList <+: url.path.render.toList)) ∧
    (∀ scheme rest, Url.scheme? (reference uri) = some (scheme, rest) →
      ∀ url, b.urlFor uri = .ok url → url.scheme = scheme) := by
  obtain ⟨special, noFile⟩ := special_of_connectable web
  obtain ⟨dir, directory⟩ := base_directory accepted web
  refine ⟨fun schemeless hostless => ?_, fun scheme rest named url found => ?_⟩
  · have joined := Url.join_of_schemeless directory noFile schemeless
    obtain ⟨url, read, origin⟩ := Url.relative_sameOrigin b.base hostless
    refine ⟨url, urlFor_of_join (joined.trans read), origin, fun slashless descending => ?_⟩
    exact Url.relative_below directory slashless (by rwa [special]) read
  · exact Url.parse_scheme named (join_eq_of_urlFor found)

/-- The backend at `http://origin.test/app`. -/
def originTest : Backend :=
  ⟨⟨"http", "", "", some (.name "origin.test"), none, .rooted ["app", ""], none, none⟩⟩

theorem parse?_originTest : parse? "http://origin.test/app" = some originTest := by
  have base : (parse? "http://origin.test/app").map (·.base) = some originTest.base := by
    decide +kernel
  obtain ⟨b, accepted, same⟩ := Option.map_eq_some_iff.1 base
  cases b
  cases same
  exact accepted

/-- Dots that stay below their start lead to a page of the base, and a scheme leads elsewhere. -/
theorem urlFor_sameOrigin_of_article :
    (∃ url, originTest.urlFor "articles/../articles/./1" = .ok url ∧
      url.SameOrigin originTest.base ∧
      originTest.base.path.render.toList <+: url.path.render.toList) ∧
    ∀ url, originTest.urlFor "ftp:x" = .ok url → url.scheme = "ftp" := by
  have path := urlFor_sameOrigin_of_path parse?_originTest (by decide) "articles/../articles/./1"
  have named := urlFor_sameOrigin_of_path parse?_originTest (by decide) "ftp:x"
  constructor
  · obtain ⟨url, found, origin, below⟩ := path.1 (by decide +kernel) (by decide +kernel)
    exact ⟨url, found, origin, below (by decide +kernel) (by decide +kernel)⟩
  · exact named.2 "ftp" ['x'] (by decide +kernel)

/-- The slashes before a path are dropped, but not before it is told from a URL. So the path of a
request may name another server, and so may a reference in a page; and a path may climb. -/
theorem urlFor_leaves_origin :
    parse? "http://origin.test/app" = some originTest ∧
      (∃ url, originTest.urlFor (Request.make "GET" "/ftp://evil.test/x").uri = .ok url ∧
        ¬ url.SameOrigin originTest.base) ∧
      (∃ url, originTest.urlFor (parseReference "/http://evil.test/x").1 = .ok url ∧
        ¬ url.SameOrigin originTest.base) ∧
      ∃ url, originTest.urlFor (Request.make "GET" "/../x").uri = .ok url ∧
        ¬ originTest.base.path.render.toList <+: url.path.render.toList := by
  have found (uri : String) (url : Url) (told : (originTest.urlFor uri).toOption = some url) :
      originTest.urlFor uri = .ok url := by
    cases answer : originTest.urlFor uri with
    | error failure =>
      rw [answer] at told
      cases told
    | ok other =>
      rw [answer] at told
      exact congrArg _ (Option.some.inj told)
  refine ⟨parse?_originTest,
    ⟨⟨"ftp", "", "", some (.name "evil.test"), none, .rooted ["x"], none, none⟩,
      found _ _ (by decide +kernel), by decide +kernel⟩,
    ⟨⟨"http", "", "", some (.name "evil.test"), none, .rooted ["x"], none, none⟩,
      found _ _ (by decide +kernel), by decide +kernel⟩,
    ⟨⟨"http", "", "", some (.name "origin.test"), none, .rooted ["x"], none, none⟩,
      found _ _ (by decide +kernel), by decide +kernel⟩⟩

end Transclusion.Backend
