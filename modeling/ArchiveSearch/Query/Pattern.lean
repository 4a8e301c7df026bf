import ArchiveSearch.Query.Field
import ArchiveSearch.Regex.Source
import ArchiveSearch.Text.Quoted

/-!
# Text patterns

A term becomes a pattern under the settings in force: its text is an expression of the user, or it
is escaped so that every character stands for itself. In both cases `^` and `$` stand for the ends
of lines. Only expressions of the user are limited in size.
-/

namespace ArchiveSearch.Query

/-- How the text of a term is to be read. -/
structure PatternMode where
  caseSensitive : Bool := false
  useRegex : Bool := false
deriving DecidableEq, Repr

/-- A pattern with the source that it was made from. -/
structure Pattern where
  source : String
  caseSensitive : Bool
  expr : Regex.Expr

namespace Pattern

/-- The source of the expression that a term stands for. -/
def sourceOf (mode : PatternMode) (fit : Fit) (term : String) : String :=
  if mode.useRegex then term
  else
    match fit with
    | .anywhere => Regex.escape term
    | .whole => "^" ++ Regex.escape term ++ "$"

/-- The flags under which a pattern is read. -/
def flags (caseSensitive : Bool) : Regex.Flags :=
  { anyCase := !caseSensitive, multiLine := true }

/-- Makes the pattern of a term, if its source is an expression. -/
def ofTerm? (mode : PatternMode) (fit : Fit) (term : String) : Option Pattern := do
  let source := sourceOf mode fit term
  let expr ← Regex.Expr.ofSource? (flags mode.caseSensitive) source
  guard (!mode.useRegex || expr.isSmall)
  return { source, caseSensitive := mode.caseSensitive, expr }

/-- Whether the pattern occurs in a text. -/
def occursIn (p : Pattern) (text : String) : Bool :=
  p.expr.matchesIn text

/-- The written form of a pattern: its source between slashes, and its flags. -/
def text (p : Pattern) : String :=
  "/" ++ p.source ++ "/" ++ (if p.caseSensitive then "m" else "im")

/-- A pattern with all its details, for a person to inspect. -/
def details (p : Pattern) : String :=
  "TextPattern \x7b regex: " ++ Text.quoted p.source ++ ", case_sensitive: " ++
    (if p.caseSensitive then "true" else "false") ++ " \x7d"

end Pattern

end ArchiveSearch.Query
