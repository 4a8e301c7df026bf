import ArchiveSearch.Command.Outcome
import ArchiveSearch.Storage.Library
import ArchiveSearch.Storage.SizeText

/-!
# Listing the books

Every book of the library is shown with the number of its items and the state of its texts.
-/

namespace ArchiveSearch.Command

/-- What there is to say on the texts of a book. -/
def statusText (b : Book) : String :=
  if b.hasNoTree then "(no tree, not searched)"
  else
    match b.status with
    | .current => ""
    | .missing => "(no fulltext cache)"
    | .outdated => "(fulltext cache outdated)"
    | .blocked size => "(fulltext cache of " ++ sizeText size ++ " over size limit, not loaded)"

/-- The line of a book. -/
def bookLine (b : Book) : String :=
  "  " ++ b.name ++ " [" ++ b.id ++ "] " ++ toString b.items.size ++ " items, " ++
    toString b.texts.size ++ " with fulltext " ++ statusText b

/-- Lists the books of a library. -/
def listBooks (l : Library) : Outcome :=
  .ofLines (["Quarry Library", "==============", ""] ++
    (if l.books.isEmpty then ["No books found."] else l.books.map bookLine) ++
    ["", "Library directory: " ++ l.directory.text])

end ArchiveSearch.Command
