import Transclusion.Url.Basic

/-!
# References

A reference found in a block names a resource of the same origin: a path and decoded query pairs.
It is resolved against a fixed root, of which nothing but the path and the query of the result
remains.
-/

namespace Transclusion

/-- The root that references are resolved against. -/
def internalRoot : Url where
  scheme := "http"
  username := ""
  password := ""
  host := some (.name "assemblage.internal")
  port := none
  path := .rooted [""]
  query := none
  fragment := none

/-- Split a reference into its path without leading slashes and its query pairs. A reference that
cannot be resolved is cut at its first `?` or `#`, and has no pairs. -/
def parseReference (reference : String) : String × Parameters :=
  match internalRoot.join (Text.trim reference) with
  | .ok url =>
    (Text.dropSlashes url.path.render, (url.query.map fun q => Form.parse q.toList).getD [])
  -- The text is cut as it was given, blanks included.
  | .error _ =>
    (Text.dropSlashes (String.ofList (reference.toList.takeWhile fun c => !(c == '?' || c == '#'))),
      [])

/-- The path of a reference has no slash in front, so none is dropped when it is requested. -/
theorem dropSlashes_parseReference (reference : String) :
    Text.dropSlashes (parseReference reference).1 = (parseReference reference).1 := by
  unfold parseReference
  split <;> exact Text.dropSlashes_eq_self (Text.head?_dropSlashes _)

end Transclusion
