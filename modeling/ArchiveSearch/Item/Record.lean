import ArchiveSearch.Item.Metadata

/-!
# Records

A record is what a search looks at: an item together with one of its segments, the extracted text
of a page or frame. An item without segments has a single record without text.
-/

namespace ArchiveSearch

/-- The extracted text of a page or frame. -/
structure Segment where
  content : Option String := none
deriving DecidableEq, Repr

namespace Segment

/-- Reads a segment. -/
def read? (w : Json.Written) : Option Segment := do
  let [content] ← w.fields? ["content"] | none
  return { content := ← Json.Written.orElse? none Json.Written.text? content }

/-- A segment as an object. -/
def json (s : Segment) : Json := .object [("content", .ofText? s.content)]

end Segment

/-- An item with one of its segments, `file` being the name of the segment. -/
structure Record where
  id : String
  file : String := ""
  metadata : Option Metadata := none
  segment : Option Segment := none

namespace Record

/-- The text of the segment. -/
def content (r : Record) : String := (r.segment.bind (·.content)).getD ""

/-- A text of the metadata, empty where there is none. -/
def textOf (r : Record) (field : Metadata → Option String) : String :=
  (r.metadata.bind field).getD ""

/-- Title, comment and content, each on a line of its own. -/
def combined (r : Record) : String :=
  r.textOf (·.title) ++ "\n" ++ r.textOf (·.comment) ++ "\n" ++ r.content

end Record

end ArchiveSearch
