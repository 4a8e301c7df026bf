import ArchiveSearch.Command.Arguments
import ArchiveSearch.Command.Outcome
import ArchiveSearch.Configuration.Basic
import ArchiveSearch.Search.Basic
import ArchiveSearch.Storage.Library

/-!
# Showing results

The results of a search are shown book by book, up to a limit for each, as lines or as JSON.
-/

namespace ArchiveSearch.Command

open Query

/-- The line of a record. -/
def recordLine (r : Record) : String :=
  "  " ++ r.id ++ "  " ++ r.textOf (·.title) ++
    (if r.file = "" then "" else "  [" ++ r.file ++ "]")

/-- The lines of the results in a book. -/
def resultLines (limit : Nat) (r : BookResults) : List String :=
  (r.book.name ++ " (" ++ toString r.records.length ++ ")") ::
    (r.records.take limit).map recordLine ++
    (if limit < r.records.length then
      ["  ... " ++ toString (r.records.length - limit) ++ " more"] else [])

/-- A record of a book as JSON. -/
def recordJson (b : Book) (r : Record) : Json :=
  let field (value : Metadata → Option String) : Json := .ofText? (r.metadata.bind value)
  .ofEntries [("book", .string b.name), ("id", .string r.id), ("file", .string r.file),
    ("title", field (·.title)), ("type", field (·.type)), ("source", field (·.source)),
    ("create", field (·.create)), ("modify", field (·.modify))]

/-- Shows results in the given format. -/
def showResults (format : Format) (limit : Nat) (results : List BookResults) : Outcome :=
  match format with
  | .text =>
      { Outcome.ofLines (results.flatMap (resultLines limit)) with
        messages := [.line "", .found (results.flatMap (·.records)).length results.length] }
  | .json =>
      .ofLines [(Json.array (results.flatMap fun r =>
        (r.records.take limit).map (recordJson r.book))).indentedText]

/-- Searches a library. The books and subtrees that were chosen by options and the search that
always applies come before the query. -/
def searchLibrary (c : Configuration) (reader : Reader) (l : Library) (query : String)
    (books roots : List String) (limit : Option Nat) (format : Format) : Outcome :=
  if l.books.isEmpty then
    { messages := [.line ("No books found in " ++ l.directory.text ++ ". Add book files first.")] }
  else
    let q := reader.read (compose books roots c.defaultSearch query)
    match search q l.books c.parallelBooks with
    | .ok results => showResults format (limit.getD c.maxResults) results
    | .error _ =>
        ({ messages := q.errorMessages.map fun m => .line ("error: " ++ m) } : Outcome).error
          "query could not be parsed"

end ArchiveSearch.Command
