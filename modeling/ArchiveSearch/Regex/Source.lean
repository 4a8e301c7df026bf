import ArchiveSearch.Regex.Meaning
import ArchiveSearch.Regex.Size
import ArchiveSearch.Regex.Syntax.Reader

/-!
# Expressions from their source

Source text is read, and the expression that it means under the given flags is taken. Escaping
puts a backslash before every character that the syntax uses, so that the text stands for itself.
-/

namespace ArchiveSearch.Regex

/-- The characters that an escape protects. -/
def isSpecial (c : Char) : Bool :=
  ['\\', '.', '+', '*', '?', '(', ')', '|', '[', ']', '\x7b', '\x7d', '^', '$', '#', '&', '-',
    '~'].contains c

/-- The source of an expression that matches the given text as it stands. -/
def escape (text : String) : String :=
  String.ofList (text.toList.flatMap fun c => if isSpecial c then ['\\', c] else [c])

/-- The expression that a source text means. -/
def Expr.ofSource? (flags : Flags) (source : String) : Option Expr := do
  let written ← Syntax.read? source
  let (e, _) ← written.meaning? flags
  return e

/-- Whether the automaton for the expression stays within the limit. -/
def Expr.isSmall (e : Expr) : Bool := e.size ≤ Expr.sizeLimit

end ArchiveSearch.Regex
