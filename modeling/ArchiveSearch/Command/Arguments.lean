/-!
# Arguments of the command line

Options may stand before the name of a command or behind it. Behind two dashes nothing is an option
any more. An option with a value takes the rest of its argument or the next one, which must not
look like an option itself. An option may be given once on either side of the name; the one behind
the name counts.
-/

namespace ArchiveSearch.Command

/-- How results are shown. -/
inductive Format where
  | text
  | json
deriving DecidableEq, Repr

/-- What the program is asked to do. -/
inductive Task where
  | search (query : String) (books roots : List String) (limit : Option Nat) (format : Format)
  | check (query : String)
  | books
deriving DecidableEq, Repr

/-- A task, and the paths that were chosen for it. -/
structure Invocation where
  config : Option String := none
  library : Option String := none
  task : Task
deriving DecidableEq, Repr

/-- The names of the commands. -/
inductive CommandName where
  | search
  | check
  | books
deriving DecidableEq, Repr

def CommandName.ofText? (text : String) : Option CommandName :=
  if text = "search" ∨ text = "s" then some search
  else if text = "check" then some check
  else if text = "books" then some books
  else none

/-- Why no task is carried out. -/
inductive Refusal where
  | misuse
  | help (command : Option CommandName)
  | version
deriving DecidableEq, Repr

/-- The options that take no value. -/
inductive Switch where
  | verbose
  | quiet
  | help
  | version
deriving DecidableEq, Repr

/-- The options that take a value. -/
inductive Setting where
  | config
  | library
  | book
  | root
  | limit
  | output
deriving DecidableEq, Repr

/-- An option of either kind. -/
inductive Flag where
  | switch (s : Switch)
  | setting (s : Setting)
deriving DecidableEq, Repr

/-- The options by their long names and their letters. -/
def flagNames : List (String × Char × Flag) := [
  ("config", 'c', .setting .config), ("library", 'L', .setting .library),
  ("verbose", 'v', .switch .verbose), ("quiet", 'q', .switch .quiet),
  ("help", 'h', .switch .help), ("version", 'V', .switch .version),
  ("book", 'b', .setting .book), ("root", 'r', .setting .root),
  ("limit", 'l', .setting .limit), ("output", 'o', .setting .output)]

/-- Whether an option is known before the name of a command, or behind the given one. -/
def Flag.isKnown (command : Option CommandName) : Flag → Bool
  | .switch .version => command.isNone
  | .setting .book | .setting .root | .setting .limit | .setting .output =>
      command == some .search
  | _ => true

/-- The option of a long name. -/
def longFlag? (command : Option CommandName) (name : String) : Option Flag :=
  ((flagNames.find? fun entry => entry.1 == name).map (·.2.2)).filter (·.isKnown command)

/-- The option of a letter. -/
def shortFlag? (command : Option CommandName) (letter : Char) : Option Flag :=
  ((flagNames.find? fun entry => entry.2.1 == letter).map (·.2.2)).filter (·.isKnown command)

/-- What has been given on one side of the name of the command. -/
structure Given where
  config : Option String := none
  library : Option String := none
  quiet : Bool := false
  books : List String := []
  roots : List String := []
  limit : Option Nat := none
  format : Option Format := none
  query : Option String := none

/-- Reads a number of 64 bits, which may have a plus in front. -/
def readLimit? (text : String) : Option Nat :=
  let digits := match text.toList with
    | '+' :: rest => rest
    | digits => digits
  let n := Nat.ofDigitChars 10 digits 0
  if digits.isEmpty || !digits.all Char.isDigit || 1 <<< 64 ≤ n then none else some n

/-- Reads the name of a format, without regard to case. -/
def readFormat? (text : String) : Option Format :=
  if text.toLower = "text" then some .text
  else if text.toLower = "json" then some .json
  else none

/-- Sets a value that has not been set. -/
def setOnce {α : Type} (old : Option α) (value : Option α) : Except Refusal (Option α) :=
  if old.isSome || value.isNone then .error .misuse else .ok value

/-- A path, which must not be empty. -/
def readPath? (text : String) : Option String := if text.isEmpty then none else some text

namespace Given

/-- Takes the value of an option. -/
def set (g : Given) (value : String) : Setting → Except Refusal Given
  | .config => do return { g with config := ← setOnce g.config (readPath? value) }
  | .library => do return { g with library := ← setOnce g.library (readPath? value) }
  | .book => .ok { g with books := g.books ++ [value] }
  | .root => .ok { g with roots := g.roots ++ [value] }
  | .limit => do return { g with limit := ← setOnce g.limit (readLimit? value) }
  | .output => do return { g with format := ← setOnce g.format (readFormat? value) }

/-- Takes an option without a value. -/
def turnOn (g : Given) (command : Option CommandName) : Switch → Except Refusal Given
  | .verbose => .ok g
  | .quiet => if g.quiet then .error .misuse else .ok { g with quiet := true }
  | .help => .error (.help command)
  | .version => .error .version

/-- Takes an argument that is no option. Only a query can be given so. -/
def setQuery (g : Given) (command : Option CommandName) (value : String) : Except Refusal Given :=
  match command with
  | some .search | some .check =>
      if g.query.isSome then .error .misuse else .ok { g with query := some value }
  | _ => .error .misuse

/-- Takes letters of options that were written together; the last one may wait for its value. -/
def takeLetters (g : Given) (command : Option CommandName) :
    List Char → Except Refusal (Given × Option Setting)
  | [] => .ok (g, none)
  | letter :: rest =>
      match shortFlag? command letter, rest with
      | none, _ => .error .misuse
      | some (.switch s), _ => do (← g.turnOn command s).takeLetters command rest
      | some (.setting s), [] => .ok (g, some s)
      | some (.setting s), '=' :: value => do return (← g.set (String.ofList value) s, none)
      | some (.setting s), value => do return (← g.set (String.ofList value) s, none)

/-- Takes an option by its long name, which may wait for its value. -/
def takeLong (g : Given) (command : Option CommandName) (text : List Char) :
    Except Refusal (Given × Option Setting) :=
  let name := String.ofList (text.takeWhile (· != '='))
  let value := text.dropWhile (· != '=')
  match longFlag? command name, value with
  | none, _ => .error .misuse
  | some (.switch s), [] => do return (← g.turnOn command s, none)
  | some (.switch _), _ => .error .misuse
  | some (.setting s), [] => .ok (g, some s)
  | some (.setting s), _ :: value => do return (← g.set (String.ofList value) s, none)

end Given

/-- Whether an argument looks like an option. -/
def looksLikeFlag (arg : String) : Bool :=
  match arg.toList with
  | '-' :: _ :: _ => true
  | _ => false

/-- The commands whose help is asked for. -/
def helpTopic (args : List String) : Refusal :=
  match args with
  | [] => .help none
  | ["help"] => .help none
  | [name] =>
      match CommandName.ofText? name with
      | some command => .help (some command)
      | none => .misuse
  | _ => .misuse

/-- Reads arguments up to the end or, where no command has been named, up to its name. `pending` is
the option that waits for its value, and `plain` says that no more options are expected. -/
def readArguments (command : Option CommandName) (g : Given) (pending : Option Setting)
    (plain : Bool) : List String → Except Refusal (Given × Option (CommandName × List String))
  | [] => if pending.isSome then .error .misuse else .ok (g, none)
  | arg :: rest =>
      if plain then do readArguments command (← g.setQuery command arg) none true rest
      else if looksLikeFlag arg then
        if pending.isSome then .error .misuse
        else if arg = "--" then readArguments command g none true rest
        else
          match arg.toList with
          | '-' :: '-' :: text => do
              let (g, pending) ← g.takeLong command text
              readArguments command g pending false rest
          | _ :: letters => do
              let (g, pending) ← g.takeLetters command letters
              readArguments command g pending false rest
          | [] => .error .misuse
      else
        match pending, command with
        | some s, _ => do readArguments command (← g.set arg s) none false rest
        | none, some _ => do readArguments command (← g.setQuery command arg) none false rest
        | none, none =>
            if arg = "help" then .error (helpTopic rest)
            else
              match CommandName.ofText? arg with
              | some name => .ok (g, some (name, rest))
              | none => .error .misuse

/-- The task of a command. -/
def taskOf (g : Given) : CommandName → Except Refusal Task
  | .search =>
      match g.query with
      | some query => .ok (.search query g.books g.roots g.limit (g.format.getD .text))
      | none => .error .misuse
  | .check =>
      match g.query with
      | some query => .ok (.check query)
      | none => .error .misuse
  | .books => .ok .books

/-- Reads the arguments of the program. A library that is named by the surroundings counts where
none is named by the arguments. -/
def Invocation.read (args : List String) (library : Option String) : Except Refusal Invocation := do
  let (before, rest) ← readArguments none {} none false args
  match rest with
  | none => .error .misuse
  | some (command, args) =>
      let (behind, _) ← readArguments (some command) {} none false args
      let task ← taskOf behind command
      if library = some "" then .error .misuse
      else
        return {
          config := behind.config <|> before.config
          library := behind.library <|> before.library <|> library
          task }

end ArchiveSearch.Command
