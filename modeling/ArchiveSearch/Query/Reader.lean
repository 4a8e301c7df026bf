import ArchiveSearch.Query.Basic
import ArchiveSearch.Query.Token

/-!
# Reading a query

The tokens of a query are taken one after the other, from the left to the right. A token adds a
term, a sort key or a name to the query, or changes the settings for the tokens behind it. What
cannot be used is reported and leaves no other trace.
-/

namespace ArchiveSearch

namespace Query

/-- What the name of a token asks for. -/
inductive Command where
  | bareName
  | matchCase
  | useRegex
  | book
  | root
  | sort
  | term (field : Field)
deriving DecidableEq, Repr

/-- The command of the given name. -/
def Command.ofName? (name : String) : Option Command :=
  if name = "default" then some bareName
  else if name = "mc" then some matchCase
  else if name = "re" then some useRegex
  else if name = "book" then some book
  else if name = "root" then some root
  else if name = "sort" then some sort
  else (Field.ofName? name).map term

/-- Makes a test of a field from the value of a term. -/
def Test.ofValue (zone : Calendar.Zone) (mode : PatternMode) (value : String) :
    Field → Except TermError Test
  | .text f =>
      match Pattern.ofTerm? mode f.fit value with
      | some pattern => .ok (.text f pattern)
      | none => .error (.invalidExpression value)
  | .date f =>
      match DateRange.ofTerm? zone value with
      | some range => .ok (.date f range)
      | none => .error (.invalidDate value)
  | .flag f => .ok (.flag f)

/-- The name that a token goes by. -/
def Settings.nameOf (s : Settings) (token : Token) : String := token.command.getD s.bareName

/-- Adds a term to the rule of its field. The rule is taken out of the table, and goes back with
the term, or as it was if the term cannot be used. -/
def addTerm (zone : Calendar.Zone) (positive : Bool) (value : String) (field : Field)
    (q : Query) : Query :=
  let rule := q.table.ruleOf field
  let others := q.table.erase field
  match Test.ofValue zone q.settings.mode value field with
  | .ok test => { q with table := others.insert (rule.add ⟨positive, test⟩) }
  | .error e => { q with table := others.insert rule, errors := q.errors ++ [e] }

/-- Follows a command. -/
def follow (zone : Calendar.Zone) (positive : Bool) (value : String) (q : Query) :
    Command → Query
  | .bareName => { q with settings := { q.settings with bareName := value } }
  | .matchCase =>
      { q with settings := { q.settings with
          mode := { q.settings.mode with caseSensitive := positive } } }
  | .useRegex =>
      { q with settings := { q.settings with
          mode := { q.settings.mode with useRegex := positive } } }
  | .book => { q with books := q.books.push positive value }
  | .root => { q with roots := q.roots.push positive value }
  | .sort => { q with sorts := q.sorts ++ [⟨.ofName value, positive⟩] }
  | .term field => addTerm zone positive value field q

/-- Takes the next token. -/
def take (zone : Calendar.Zone) (q : Query) (token : Token) : Query :=
  match Command.ofName? (q.settings.nameOf token) with
  | some command => q.follow zone token.positive token.value command
  | none =>
      { q with warnings := q.warnings ++ [unknownCommandMessage (q.settings.nameOf token)] }

/-- What is known before a query is read: the zone of stored timestamps, and the name that bare
terms go by at first. -/
structure Reader where
  zone : Calendar.Zone := .localZone
  bareName : String := defaultField
deriving DecidableEq, Repr

namespace Reader

/-- The settings before the first token. -/
def settings (r : Reader) : Settings := { bareName := r.bareName }

/-- Reads a list of tokens. -/
def readTokens (r : Reader) (tokens : List Token) : Query :=
  tokens.foldl (Query.take r.zone) { settings := r.settings }

/-- Reads a query. -/
def read (r : Reader) (text : String) : Query := r.readTokens (tokenize text)

end Reader

/-- Puts a query together: books and subtrees that were chosen apart from it, a search that always
applies, and the input of the user. Blank parts are left out. -/
def compose (books roots : List String) (always input : String) : String :=
  let chosen := books.map (fun name => "book:" ++ quoteTerm name) ++
    roots.map fun id => "root:" ++ quoteTerm id
  " ".intercalate ((chosen ++ [always, input]).filter fun part => !Text.allBlank part)

end Query

end ArchiveSearch
