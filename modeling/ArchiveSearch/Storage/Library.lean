import ArchiveSearch.Storage.Load

/-!
# Libraries

An open library keeps the books as they were last loaded. It is loaded anew as a whole or not at
all, and counts how often it was.
-/

namespace ArchiveSearch

/-- The books of a directory as they were last loaded. -/
structure Library where
  directory : Path := ⟨""⟩
  options : LoadOptions := {}
  books : List Book := []
  /-- How often the books were loaded anew. This number has no bound, where a counter of 64 bits
  begins again after `1 <<< 64` reloads. -/
  reloads : Nat := 0

namespace Library

/-- Opens a directory. -/
def open? (t : Tree) (now : Time) (options : LoadOptions) (directory : Path) :
    Except Failure Library := do
  return { directory, options, books := ← loadBooks t now options directory }

/-- A library of books that were not loaded from a directory. -/
def ofBooks (books : List Book) : Library := { books := sortBooks books }

/-- Loads the directory again. -/
def reload (l : Library) (t : Tree) (now : Time) : Except Failure Library := do
  return { l with books := ← loadBooks t now l.options l.directory, reloads := l.reloads + 1 }

/-- The book with the given identifier. -/
def find? (l : Library) (id : String) : Option Book := l.books.find? fun b => b.id == id

/-- A value that may be missing. -/
def optionText (value : Option String) : String :=
  match value with
  | some value => "Some(" ++ value ++ ")"
  | none => "None"

/-- A number in a larger unit, with as many decimals as it needs; the unit is a power of ten. -/
def decimalText (unit n : Nat) : String :=
  let decimals := ((Nat.toDigits 10 (unit + n % unit)).tail.reverse.dropWhile (· == '0')).reverse
  toString (n / unit) ++ if decimals = [] then "" else "." ++ String.ofList decimals

/-- A number of nanoseconds, in the largest unit that it fills. -/
def spanText (nanos : Nat) : String :=
  if 1000000000 ≤ nanos then decimalText 1000000000 nanos ++ "s"
  else if 1000000 ≤ nanos then decimalText 1000000 nanos ++ "ms"
  else if 1000 ≤ nanos then decimalText 1000 nanos ++ "µs"
  else toString nanos ++ "ns"

/-- A library with all its details, for a person to inspect. -/
def details (l : Library) : String :=
  "Library \x7b dir: " ++ Text.quotedPath l.directory.text ++
    ", options: LoadOptions \x7b cache_update_threshold: " ++
    optionText (l.options.span?.map spanText) ++ ", cache_size_limit: " ++
    optionText (l.options.sizeLimit.map toString) ++ " \x7d, books: " ++
    toString l.books.length ++ ", generation: " ++ toString l.reloads ++ " \x7d"

end Library

end ArchiveSearch
