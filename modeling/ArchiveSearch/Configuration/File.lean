import ArchiveSearch.Configuration.Basic
import ArchiveSearch.Toml.Document

/-!
# The file of the configuration

The configuration is kept in a TOML file with three tables. What the file does not say has its
usual value, and names that mean nothing are passed over. The file holds numbers of 63 bits, so
larger ones cannot be written.
-/

namespace ArchiveSearch.Configuration

/-- The names of the tables, and of the values in each of them. -/
def tableNames : List String := ["general", "search", "time"]

def generalNames : List String := ["library_path", "max_results", "log_level"]

def searchNames : List String :=
  ["default_search", "default_field", "parallel_books", "cache_update_threshold_hours",
    "cache_size_limit_mib"]

def timeNames : List String := ["timezone"]

/-- Reads the table of general values. -/
def readGeneral? (c : Configuration) (t : Toml) : Option Configuration := do
  let [path, results, level] ← t.fields? generalNames | none
  return { c with
    libraryPath := ← Toml.orElse? c.libraryPath (fun v => v.string?.map some) path
    maxResults := ← Toml.orElse? c.maxResults Toml.natural? results
    logLevel := ← Toml.orElse? c.logLevel Toml.string? level }

/-- Reads the table of the search. -/
def readSearch? (c : Configuration) (t : Toml) : Option Configuration := do
  let [search, field, parallel, hours, mebibytes] ← t.fields? searchNames | none
  return { c with
    defaultSearch := ← Toml.orElse? c.defaultSearch Toml.string? search
    defaultField := ← Toml.orElse? c.defaultField Toml.string? field
    parallelBooks := ← Toml.orElse? c.parallelBooks Toml.boolean? parallel
    textAgeHours := ← Toml.orElse? c.textAgeHours Toml.natural? hours
    textSizeMebibytes := ← Toml.orElse? c.textSizeMebibytes Toml.natural? mebibytes }

/-- Reads the table of the time. -/
def readTime? (c : Configuration) (t : Toml) : Option Configuration := do
  let [zone] ← t.fields? timeNames | none
  return { c with zoneName := ← Toml.orElse? c.zoneName Toml.string? zone }

/-- Reads a configuration. -/
def ofText? (text : String) : Option Configuration := do
  let t ← Toml.read? text
  let [general, search, time] ← t.fields? tableNames | none
  let c : Configuration := {}
  let c ← Toml.orElse? c (readGeneral? c) general
  let c ← Toml.orElse? c (readSearch? c) search
  Toml.orElse? c (readTime? c) time

/-- The configuration in the file at a path, the usual one if there is no file. -/
def load (t : Tree) (p : Path) : Except Failure Configuration :=
  match t.at? p with
  | none => .ok {}
  | some _ => do
      let text ← (t.readText p).mapError .file
      match ofText? text with
      | some c => .ok c
      | none => .error (.settings .unreadable)

/-- A line with a name and a value. -/
def line (name value : String) : String := name ++ " = " ++ value ++ "\n"

def boolText (b : Bool) : String := if b then "true" else "false"

/-- The text of a configuration. -/
def text (c : Configuration) : String :=
  "[general]\n" ++
    (match c.libraryPath with
      | some path => line "library_path" (Toml.writeString path)
      | none => "") ++
    line "max_results" (toString c.maxResults) ++
    line "log_level" (Toml.writeString c.logLevel) ++
    "\n[search]\n" ++
    line "default_search" (Toml.writeString c.defaultSearch) ++
    line "default_field" (Toml.writeString c.defaultField) ++
    line "parallel_books" (boolText c.parallelBooks) ++
    line "cache_update_threshold_hours" (toString c.textAgeHours) ++
    line "cache_size_limit_mib" (toString c.textSizeMebibytes) ++
    "\n[time]\n" ++
    line "timezone" (Toml.writeString c.zoneName)

/-- The text of a configuration, if its numbers can be written. -/
def text? (c : Configuration) : Option String :=
  if [c.maxResults, c.textAgeHours, c.textSizeMebibytes].all (· < 1 <<< 63) then some c.text
  else none

/-- Saves a configuration at a path, and makes the directory for it if need be. If the files allow
it, this leaves a tree, and tells what is wrong with the configuration if it cannot be written. -/
def saving (t : Tree) (now : Time) (p : Path) (c : Configuration) :
    Except FileFault (Tree × Option SettingsFault) := do
  let t ← t.makeDirectory p.parent
  match c.text? with
  | some text => return (← t.writeFile p ⟨text.toUTF8, now⟩, none)
  | none => return (t, some .tooLarge)

/-- The tree in which a configuration has been saved at a path. -/
def save (t : Tree) (now : Time) (p : Path) (c : Configuration) : Except Failure Tree := do
  match ← (saving t now p c).mapError .file with
  | (t, none) => return t
  | (_, some fault) => .error (.settings fault)

end ArchiveSearch.Configuration
