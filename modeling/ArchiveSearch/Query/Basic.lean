import ArchiveSearch.Query.Rule

/-!
# Queries

A query that has been read: the terms that records have to meet, the keys to order them by, the
books and subtrees to search, and a report of what could not be used.
-/

namespace ArchiveSearch

namespace Query

/-- What a sort key compares. -/
inductive SortField where
  | id
  | file
  | content
  | metadata (key : String)
deriving DecidableEq, Repr

namespace SortField

/-- The field of a name; a name that is not of a record itself is one of its metadata. -/
def ofName (name : String) : SortField :=
  if name = "id" then id
  else if name = "file" then file
  else if name = "content" then content
  else metadata name

/-- The written form of a field. -/
def text : SortField → String
  | id => "id"
  | file => "file"
  | content => "content"
  | metadata key => "meta." ++ key

end SortField

/-- A field to order records by, and its direction. -/
structure SortKey where
  field : SortField
  ascending : Bool
deriving DecidableEq, Repr

/-- What the terms that follow depend on. -/
structure Settings where
  mode : PatternMode := {}
  /-- The name that bare terms go by. -/
  bareName : String := defaultField
deriving DecidableEq, Repr

/-- Why a term cannot be used. -/
inductive TermError where
  | invalidExpression (term : String)
  | invalidDate (term : String)
deriving DecidableEq, Repr

namespace TermError

/-- The term as it was written. -/
def term : TermError → String
  | invalidExpression term => term
  | invalidDate term => term

/-- The report to the user. -/
def message : TermError → String
  | invalidExpression term => "invalid regular expression: " ++ term
  | invalidDate term => "invalid date: " ++ term

end TermError

/-- The report of a command that means nothing. -/
def unknownCommandMessage (name : String) : String :=
  "unknown command ignored: " ++ name ++ ":"

end Query

open Query in
/-- A query that has been read. -/
structure Query where
  table : RuleTable := .empty
  sorts : List SortKey := []
  books : Scope := {}
  roots : Scope := {}
  /-- The settings in force behind the last token. -/
  settings : Settings := {}
  errors : List TermError := []
  warnings : List String := []

namespace Query

/-- The rule of a field, if there are terms on it. -/
def rule? (q : Query) (field : Field) : Option Rule := q.table.find? field

/-- The rules in the order of their fields. -/
def rules (q : Query) : List Rule := Field.all.filterMap q.rule?

/-- Whether all terms could be used. -/
def isValid (q : Query) : Bool := q.errors.isEmpty

/-- The reports of the terms that could not be used. -/
def errorMessages (q : Query) : List String := q.errors.map TermError.message

end Query

end ArchiveSearch
