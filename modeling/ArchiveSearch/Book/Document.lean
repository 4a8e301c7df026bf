import ArchiveSearch.Book.Basic

/-!
# Books as documents

How books and their texts are written in JSON. A book that is written and read again is the same
up to the status of its texts, which is not written. Dictionaries are written in ascending order;
any other order would be read in the same way.
-/

namespace ArchiveSearch

open Json (Written)

/-- The texts of a book: segments by item and by name. -/
abbrev Texts := Dictionary (Dictionary Segment)

namespace Texts

/-- Reads texts. -/
def read? : Written → Option Texts :=
  Written.dictionary? (Written.dictionary? Segment.read?)

/-- Texts as an object. -/
def json (t : Texts) : Json :=
  .ofDictionary (t.map fun segments => .ofDictionary (segments.map Segment.json))

/-- Reads a document of texts. -/
def ofText? (text : String) : Option Texts := (Written.read? text).bind read?

end Texts

namespace Contents

/-- Reads a table of contents. -/
def read? (w : Written) : Option Contents :=
  (Written.dictionary? (Written.list? Written.string?) w).map fun table => { table }

/-- A table of contents as an object. -/
def json (c : Contents) : Json :=
  .ofDictionary (c.table.map fun children => .array (children.map .string))

end Contents

namespace Book

/-- The names of the fields, in the order in which they are written. -/
def fieldNames : List String := ["id", "name", "no_tree", "meta", "toc", "fulltext"]

/-- Reads a book. Its metadata lie two levels below its own. -/
def read? (w : Written) : Option Book := do
  let [id, name, hasNoTree, items, contents, texts] ← w.fields? fieldNames | none
  return {
    id := ← Written.orElse? "" Written.string? id
    name := ← Written.orElse? "" Written.string? name
    hasNoTree := ← Written.orElse? false Written.bool? hasNoTree
    items := ← Written.orElse? .empty
      (Written.dictionary? (Metadata.read? (Json.nestingLimit - 2))) items
    contents := ← Written.orElse? {} Contents.read? contents
    texts := ← Written.orElse? .empty Texts.read? texts }

/-- A book as an object, of which the values of the dictionaries are given. -/
def jsonWith (b : Book) (items contents texts : Json) : Json :=
  .object [("id", .string b.id), ("name", .string b.name), ("no_tree", .bool b.hasNoTree),
    ("meta", items), ("toc", contents), ("fulltext", texts)]

/-- A book as an object. -/
def json (b : Book) : Json :=
  b.jsonWith (.ofDictionary (b.items.map Metadata.json)) b.contents.json (Texts.json b.texts)

/-- Reads a document of a book. -/
def ofText? (text : String) : Option Book := (Written.read? text).bind read?

end Book

end ArchiveSearch
