import ArchiveSearch.Item.Record
import ArchiveSearch.Query.Basic

/-!
# Order of results

Records are ordered by the texts under the sort keys, the first key first. Records that no key
tells apart stay in the order in which they were found.
-/

namespace ArchiveSearch

open Query

/-- The text of a record that a sort key compares. -/
def Record.sortText (r : Record) : SortField → String
  | .id => r.id
  | .file => r.file
  | .content => r.content
  | .metadata key => (r.metadata.bind (·.field? key)).getD ""

namespace Query

/-- Compares two records by one key. -/
def SortKey.compare (key : SortKey) (a b : Record) : Ordering :=
  let order := Ord.compare (a.sortText key.field) (b.sortText key.field)
  if key.ascending then order else order.swap

/-- Compares two records by several keys. -/
def compareBy (keys : List SortKey) (a b : Record) : Ordering :=
  match keys with
  | [] => .eq
  | key :: rest => (key.compare a b).then (compareBy rest a b)

/-- Orders records by several keys. -/
def sortBy (keys : List SortKey) (records : List Record) : List Record :=
  records.mergeSort fun a b => (compareBy keys a b).isLE

end Query

end ArchiveSearch
