import ArchiveSearch.Command.Outcome
import ArchiveSearch.Configuration.Basic

/-!
# Showing how a query is understood

The rules of a query, its sort keys, its scopes and its settings are shown on lines of their own,
and then what could not be used.
-/

namespace ArchiveSearch.Command

open Query

/-- The lines of a rule. -/
def ruleLines (r : Rule) : List String :=
  let start := "  " ++ r.field.name
  match r with
  | .text _ patterns =>
      patterns.included.map (fun p => start ++ " ~ " ++ p.text) ++
        patterns.excluded.map (fun p => start ++ " !~ " ++ p.text)
  | .date _ ranges =>
      let bounds (d : DateRange) : String := d.first ++ "..=" ++ d.last
      ranges.included.map (fun d => start ++ " in " ++ bounds d) ++
        ranges.excluded.map (fun d => start ++ " not in " ++ bounds d)
  | .flag _ marks =>
      (if marks.included.isEmpty then [] else [start ++ " is set"]) ++
        (if marks.excluded.isEmpty then [] else [start ++ " is unset"])

/-- The line of a sort key. -/
def sortLine (key : SortKey) : String :=
  "  " ++ key.field.text ++ (if key.ascending then " ascending" else " descending")

/-- The lines of a scope under its title; an empty scope has none. -/
def scopeLines (title : String) (s : Scope) : List String :=
  if s.isEmpty then []
  else (title ++ ":") :: s.included.map ("  + " ++ ·) ++ s.excluded.map ("  - " ++ ·)

def yesNo (b : Bool) : String := if b then "true" else "false"

/-- The line of the settings at the end of a query. -/
def settingsLine (s : Settings) : String :=
  "Flags: case_sensitive=" ++ yesNo s.mode.caseSensitive ++ " regex=" ++ yesNo s.mode.useRegex ++
    " default=" ++ s.bareName

/-- All lines on a query. -/
def describe (q : Query) : List String :=
  "Rules:" ::
    (if q.rules.isEmpty then ["  (none, every item matches)"] else q.rules.flatMap ruleLines) ++
    (if q.sorts.isEmpty then [] else "Sort:" :: q.sorts.map sortLine) ++
    scopeLines "Books" q.books ++ scopeLines "Roots" q.roots ++
    settingsLine q.settings :: q.warnings.map ("warning: " ++ ·) ++
    q.errorMessages.map ("error: " ++ ·)

/-- Shows how a query is understood, where the local clocks have the given offset. -/
def check (c : Configuration) (clocks : Calendar.Offset) (text : String) :
    Except Failure Outcome := do
  let q := (← c.reader clocks).read text
  let outcome := Outcome.ofLines (describe q)
  return if q.isValid then outcome
    else outcome.error ("query has " ++ toString q.errors.length ++ " error(s)")

end ArchiveSearch.Command
