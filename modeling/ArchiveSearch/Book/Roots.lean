import ArchiveSearch.Book.Contents
import ArchiveSearch.Query.Selection

/-!
# Roots

A scope of roots picks the items to search: those under the roots that are asked for, or in the
whole book if none are, except those under the roots that are ruled out. It rests on nothing but a
function that lists what lies under a root.
-/

namespace ArchiveSearch

open Query (Scope)

/-- The roots to start from: those that are asked for, or the one of the whole book. -/
def Query.Scope.starts (s : Scope) : List String :=
  if s.included.isEmpty then [rootId] else s.included

/-- The items that a scope of roots picks, in the order in which they are first listed. -/
def resolveRoots (scope : Scope) (reachable : String → List String) : List String :=
  let excluded := scope.excluded.flatMap reachable
  ((scope.starts.flatMap reachable).filter fun id => !excluded.contains id).eraseDups

end ArchiveSearch
