import ArchiveSearch.Command.Books
import ArchiveSearch.Command.Check
import ArchiveSearch.Command.Search
import ArchiveSearch.Configuration.File
import ArchiveSearch.Configuration.Location

/-!
# Running the program

The program is a function of its arguments, its surroundings, the files that it sees and the time.
-/

namespace ArchiveSearch.Command

/-- How the program is called, in brief. -/
def usage : String :=
  "Usage: quarry [OPTIONS] <COMMAND>\n\n" ++
  "Commands:\n" ++
  "  search  Search items matching a query\n" ++
  "  check   Parse a query and show its rules, sort keys and scopes\n" ++
  "  books   List the books in the library\n" ++
  "  help    Print this message or the help of the given subcommand(s)\n\n" ++
  "Options:\n" ++
  "  -c, --config <CONFIG>    Path to configuration file\n" ++
  "  -L, --library <LIBRARY>  Library directory (overrides the configured one)\n" ++
  "  -v, --verbose...         Verbosity level (-v, -vv, -vvv)\n" ++
  "  -q, --quiet              Suppress all output except errors\n" ++
  "  -h, --help               Print help\n" ++
  "  -V, --version            Print version\n"

/-- How a command is called. -/
def commandUsage : CommandName → String
  | .search =>
      "Search items matching a query\n\n" ++
      "Usage: quarry search [OPTIONS] <QUERY>\n\n" ++
      "Options:\n" ++
      "  -b, --book <BOOK>      Only search these books, by name (can be used multiple times)\n" ++
      "  -r, --root <ROOT>      Only search under these item ids (can be used multiple times)\n" ++
      "  -l, --limit <LIMIT>    Maximum number of results to show per book\n" ++
      "  -o, --output <OUTPUT>  Output format (text, json) [default: text]\n"
  | .check =>
      "Parse a query and show its rules, sort keys and scopes\n\n" ++
      "Usage: quarry check [OPTIONS] <QUERY>\n"
  | .books => "List the books in the library\n\nUsage: quarry books [OPTIONS]\n"

/-- What is shown instead of a task. -/
def Refusal.outcome : Refusal → Outcome
  | misuse => { code := 2, messages := [.line "error: the arguments could not be used\n",
      .line usage] }
  | help none => { output := "Command-line interface for Quarry\n\n" ++ usage }
  | help (some command) => { output := commandUsage command }
  | version => { output := "quarry 0.1.0\n" }

/-- The file that holds the configuration. -/
def Invocation.configFile (i : Invocation) (s : Surroundings) : Except Failure Path :=
  match i.config, s.configFile? with
  | some path, _ => .ok ⟨path⟩
  | none, some path => .ok path
  | none, none => .error (.settings .noConfigDirectory)

/-- The configuration that applies. -/
def Invocation.configuration (i : Invocation) (s : Surroundings) (t : Tree) :
    Except Failure Configuration := do
  let c ← Configuration.load t (← i.configFile s)
  return { c with libraryPath := i.library <|> c.libraryPath }

/-- Opens the library and carries out a task on it. -/
def withLibrary (c : Configuration) (s : Surroundings) (t : Tree) (now : Time)
    (task : Query.Reader → Library → Outcome) : Except Failure Outcome := do
  let reader ← c.reader s.clocks
  let directory ← c.libraryDirectory s
  let l ← Library.open? t now c.loadOptions directory
  return task reader l

/-- Carries out what was asked for. -/
def Invocation.run (i : Invocation) (s : Surroundings) (t : Tree) (now : Time) :
    Except Failure Outcome := do
  let c ← i.configuration s t
  match i.task with
  | .search query books roots limit format =>
      withLibrary c s t now fun reader l => searchLibrary c reader l query books roots limit format
  | .check query => check c s.clocks query
  | .books => withLibrary c s t now fun _ l => listBooks l

/-- Runs the program. -/
def run (args : List String) (library : Option String) (s : Surroundings) (t : Tree) (now : Time) :
    Outcome :=
  match Invocation.read args library with
  | .error refusal => refusal.outcome
  | .ok i =>
      match i.run s t now with
      | .ok outcome => outcome
      | .error f => .ofFailure f

end ArchiveSearch.Command
