import ArchiveSearch.Json.Fields

/-!
# Metadata of items

What is known of an archived item. The fields that searches use are kept as texts and flags
whatever they were written as, and everything else is kept as it stands.
-/

namespace ArchiveSearch

open Json (Written)

/-- The metadata of an item. Times are timestamps of 17 digits. -/
structure Metadata where
  title : Option String := none
  comment : Option String := none
  source : Option String := none
  icon : Option String := none
  type : Option String := none
  create : Option String := none
  modify : Option String := none
  marked : Bool := false
  locked : Bool := false
  /-- The entries of all other names. -/
  extra : Dictionary Json := .empty

namespace Json

/-- A value as a text: a string itself, `null` as none, and anything else in its written form. -/
def asText? : Json → Option String
  | null => none
  | string s => some s
  | value => some value.compactText

/-- Whether a value counts as set: all but `null`, `false`, zero and the empty string. -/
def isSet : Json → Bool
  | null => false
  | bool b => b
  | number n => !n.isZero
  | string s => s ≠ ""
  | array _ => true
  | object _ => true

end Json

namespace Metadata

/-- The names of the fields, in the order in which they are written. -/
def fieldNames : List String :=
  ["title", "comment", "source", "icon", "type", "create", "modify", "marked", "locked"]

/-- A flag as a text. -/
def flagText? (flag : Bool) : Option String := if flag then some "true" else none

/-- The value of a name as a text. -/
def field? (m : Metadata) (name : String) : Option String :=
  match name with
  | "title" => m.title
  | "comment" => m.comment
  | "source" => m.source
  | "icon" => m.icon
  | "type" => m.type
  | "create" => m.create
  | "modify" => m.modify
  | "marked" => flagText? m.marked
  | "locked" => flagText? m.locked
  | _ => (m.extra.find? name).bind Json.asText?

/-- The metadata with the given values of its fields. -/
def ofValues (value : String → Json) (extra : Dictionary Json) : Metadata where
  title := (value "title").asText?
  comment := (value "comment").asText?
  source := (value "source").asText?
  icon := (value "icon").asText?
  type := (value "type").asText?
  create := (value "create").asText?
  modify := (value "modify").asText?
  marked := (value "marked").isSet
  locked := (value "locked").isSet
  extra

/-- The metadata of the entries of an object, in which no field is repeated. -/
def ofEntries? (entries : List (String × Json)) : Option Metadata :=
  if fieldNames.all fun name => (entries.filter fun entry => entry.1 = name).length ≤ 1 then
    let all := Dictionary.ofList entries
    some (ofValues (fun name => (all.find? name).getD .null)
      (.ofList (entries.filter fun entry => !fieldNames.contains entry.1)))
  else none

/-- Reads metadata. -/
def read? (room : Nat) : Written → Option Metadata
  | .object entries =>
      match room with
      | 0 => none
      | room + 1 => (Written.valueEntries? room entries).bind ofEntries?
  | _ => none

/-- Metadata as an object: the fields in their order, then the other entries. -/
def json (m : Metadata) : Json :=
  .object ([("title", .ofText? m.title), ("comment", .ofText? m.comment),
    ("source", .ofText? m.source), ("icon", .ofText? m.icon), ("type", .ofText? m.type),
    ("create", .ofText? m.create), ("modify", .ofText? m.modify), ("marked", .bool m.marked),
    ("locked", .bool m.locked)] ++ m.extra.entries)

/-- Reads the text of metadata. -/
def ofText? (text : String) : Option Metadata :=
  (Written.read? text).bind (read? Json.nestingLimit)

end Metadata

end ArchiveSearch
