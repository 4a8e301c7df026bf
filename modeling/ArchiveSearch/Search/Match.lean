import ArchiveSearch.Item.Record
import ArchiveSearch.Query.Basic

/-!
# Matching

A record matches a query if it has metadata and meets every rule. What is ruled out must never
fit. Of what is asked for everything must fit, except where values are compared as a whole: there
one fit is enough.
-/

namespace ArchiveSearch

open Query

namespace Query.Selection

/-- Whether every pattern that is asked for occurs in a text, and none that is ruled out. -/
def allOccur (patterns : Selection Pattern) (text : String) : Bool :=
  !patterns.excluded.any (·.occursIn text) && patterns.included.all (·.occursIn text)

/-- Whether one of the patterns that are asked for occurs in a text, unless none are, and none
that is ruled out. -/
def anyOccurs (patterns : Selection Pattern) (text : String) : Bool :=
  !patterns.excluded.any (·.occursIn text) &&
    (patterns.included.isEmpty || patterns.included.any (·.occursIn text))

/-- Whether there is a timestamp that lies in all ranges that are asked for and in none that is
ruled out. -/
def holdTime (ranges : Selection DateRange) (time : Option String) : Bool :=
  match time with
  | none => false
  | some time =>
      time ≠ "" && !ranges.excluded.any (·.contains time) && ranges.included.all (·.contains time)

/-- Whether a flag is set as it is asked for; how often that is does not matter. -/
def agreeWith (marks : Selection Unit) (flag : Bool) : Bool :=
  (marks.included.isEmpty || flag) && (marks.excluded.isEmpty || !flag)

end Query.Selection

namespace Record

/-- The text of a record that a field stands for. -/
def text (r : Record) : TextField → String
  | .id => r.id
  | .type => r.textOf (·.type)
  | .file => r.file
  | .source => r.textOf (·.source)
  | .icon => r.textOf (·.icon)
  | .combined => r.combined
  | .title => r.textOf (·.title)
  | .comment => r.textOf (·.comment)
  | .content => r.content

/-- The time of an item that a field stands for. -/
def time? (r : Record) : DateField → Option String
  | .create => r.metadata.bind (·.create)
  | .modify => r.metadata.bind (·.modify)

/-- The flag of an item that a field stands for. -/
def flag (r : Record) : FlagField → Bool
  | .marked => r.metadata.any (·.marked)
  | .locked => r.metadata.any (·.locked)

end Record

namespace Query

/-- Whether a record meets a rule. -/
def Rule.isMet (r : Record) : Rule → Bool
  | .text field patterns =>
      match field.fit with
      | .anywhere => patterns.allOccur (r.text field)
      | .whole => patterns.anyOccurs (r.text field)
  | .date field ranges => ranges.holdTime (r.time? field)
  | .flag field marks => marks.agreeWith (r.flag field)

/-- Whether a record matches a list of rules. -/
def matchesRules (rules : List Rule) (r : Record) : Bool :=
  r.metadata.isSome && rules.all (·.isMet r)

/-- Whether a record matches a query. -/
def isMatch (q : Query) (r : Record) : Bool := matchesRules q.rules r

end Query

end ArchiveSearch
