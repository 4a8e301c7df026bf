/-!
# Fields

The fields of an item that a term can test, grouped by what their terms are: text patterns, ranges
of timestamps, or mere flags.
-/

namespace ArchiveSearch.Query

/-- Fields whose terms are text patterns. -/
inductive TextField where
  | id
  | type
  | file
  | source
  | icon
  /-- Title, comment and content together. -/
  | combined
  | title
  | comment
  | content
deriving DecidableEq, Repr

/-- Fields whose terms are ranges of timestamps. -/
inductive DateField where
  | create
  | modify
deriving DecidableEq, Repr

/-- Fields whose terms only say whether a flag is set. -/
inductive FlagField where
  | marked
  | locked
deriving DecidableEq, Repr

/-- A field that terms can test. -/
inductive Field where
  | text (field : TextField)
  | date (field : DateField)
  | flag (field : FlagField)
deriving DecidableEq, Repr

/-- How a pattern has to fit a text. -/
inductive Fit where
  /-- It may occur anywhere. -/
  | anywhere
  /-- It must be the whole text, or a whole line of it. -/
  | whole
deriving DecidableEq, Repr

/-- Identifiers and types are compared as a whole, all other texts are searched. -/
def TextField.fit : TextField → Fit
  | id | type => .whole
  | file | source | icon | combined | title | comment | content => .anywhere

def TextField.name : TextField → String
  | id => "id"
  | type => "type"
  | file => "file"
  | source => "source"
  | icon => "icon"
  | combined => "tcc"
  | title => "title"
  | comment => "comment"
  | content => "content"

def DateField.name : DateField → String
  | create => "create"
  | modify => "modify"

def FlagField.name : FlagField → String
  | marked => "marked"
  | locked => "locked"

namespace Field

/-- The fields in the order in which rules are listed. -/
def all : List Field := [
  .text .id, .text .type, .text .file, .text .source, .text .icon, .text .combined, .text .title,
  .text .comment, .text .content, .date .create, .date .modify, .flag .marked, .flag .locked]

def name : Field → String
  | text f => f.name
  | date f => f.name
  | flag f => f.name

/-- The field of the given name. -/
def ofName? (name : String) : Option Field :=
  all.find? fun f => f.name == name

end Field

/-- The field that bare terms test unless the query says otherwise. -/
def defaultField : String := "tcc"

end ArchiveSearch.Query
