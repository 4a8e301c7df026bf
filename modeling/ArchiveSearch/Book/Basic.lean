import ArchiveSearch.Book.Roots
import ArchiveSearch.Item.Record

/-!
# Books

A book is a collection of items with a table of contents and the extracted texts of the items. A
search goes through its records, those of one item in the order of the names of its segments.
-/

namespace ArchiveSearch

open Query (Scope)

/-- What is known of the texts of a book since it was loaded. -/
inductive TextStatus where
  | current
  /-- There are no texts. -/
  | missing
  /-- The book has changed since the texts were extracted. -/
  | outdated
  /-- The file of the texts is too large. -/
  | blocked (size : Nat)
deriving DecidableEq, Repr

/-- A collection of items. -/
structure Book where
  id : String := ""
  name : String := ""
  /-- Whether the book has no tree; such a book is never searched. -/
  hasNoTree : Bool := false
  items : Dictionary Metadata := .empty
  contents : Contents := {}
  /-- The segments of the items by their names. -/
  texts : Dictionary (Dictionary Segment) := .empty
  status : TextStatus := .current

namespace Book

/-- Adds an item under a parent. -/
def addItem (b : Book) (parent id : String) (m : Metadata) : Book :=
  { b with contents := b.contents.addChild parent id, items := b.items.insert id m }

/-- Adds a segment to an item. -/
def addSegment (b : Book) (id file content : String) : Book :=
  { b with texts := b.texts.update id .empty (·.insert file { content }) }

/-- Whether there are texts for any item. -/
def hasTexts (b : Book) : Bool := !b.texts.isEmpty

/-- The segments of an item. -/
def segments (b : Book) (id : String) : List (String × Segment) :=
  ((b.texts.find? id).getD .empty).entries

/-- The records of an item. An item without metadata has none. -/
def records (b : Book) (id : String) : List Record :=
  match b.items.find? id, b.segments id with
  | none, _ => []
  | some m, [] => [{ id, metadata := m }]
  | some m, segments => segments.map fun (file, segment) => { id, file, metadata := m, segment }

/-- The items under a scope of roots. -/
def pool (b : Book) (roots : Scope) : List String :=
  resolveRoots roots b.contents.reachable

/-- The records under a scope of roots. -/
def candidates (b : Book) (roots : Scope) : List Record :=
  (b.pool roots).flatMap b.records

end Book

end ArchiveSearch
