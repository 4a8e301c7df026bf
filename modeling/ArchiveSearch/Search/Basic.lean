import ArchiveSearch.Book.Basic
import ArchiveSearch.Failure
import ArchiveSearch.Search.Match
import ArchiveSearch.Search.Order

/-!
# Searching books

A search goes through the books in the scope of a query, one after the other or side by side, and
returns for each of them the records that match, in the order that the query asks for. A query with
terms that could not be used is not run.
-/

namespace ArchiveSearch

open Query

/-- The records that were found in a book. -/
structure BookResults where
  book : Book
  records : List Record

/-- Whether a query searches a book. -/
def Query.covers (q : Query) (b : Book) : Bool :=
  !b.hasNoTree && q.books.admits b.name

/-- The books that a query searches. -/
def booksInScope (q : Query) (books : List Book) : List Book := books.filter q.covers

/-- The records of a book that match, in order. -/
def searchBook (q : Query) (b : Book) : List Record :=
  sortBy q.sorts ((b.candidates q.roots).filter q.isMatch)

/-- Applies a function to all entries of a list, to its two halves side by side. -/
def mapInHalves {α β : Type} (f : α → β) (entries : List α) : List β :=
  if entries.length ≤ 1 then entries.map f
  else
    let half := entries.length / 2
    mapInHalves f (entries.take half) ++ mapInHalves f (entries.drop half)
termination_by entries.length
decreasing_by all_goals simp only [List.length_take, List.length_drop]; omega

/-- Searches books, or reports the terms that could not be used. -/
def search (q : Query) (books : List Book) (parallel : Bool := true) :
    Except Failure (List BookResults) :=
  if q.isValid then
    let selected := booksInScope q books
    let run (book : Book) : BookResults := { book, records := searchBook q book }
    .ok (if parallel && 1 < selected.length then mapInHalves run selected else selected.map run)
  else .error (.invalidQuery q.errorMessages)

end ArchiveSearch
