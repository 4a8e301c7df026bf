import ArchiveSearch.Configuration.Basic

/-!
# Where things are kept

The file of the configuration and the library have their usual places below the home directory.
The user may name other directories for the configuration and the data of all programs, which
count only if their paths are absolute.
-/

namespace ArchiveSearch

/-- The directories that the user has named, and the offset of the local clocks. -/
structure Surroundings where
  home : Option String := none
  configHome : Option String := none
  dataHome : Option String := none
  clocks : Calendar.Offset := .zero
deriving DecidableEq, Repr

namespace Surroundings

/-- The name of the program. -/
def programName : String := "quarry"

/-- The directory that was named for all programs, or else the usual one below the home directory.
There must be a home directory in any case. -/
def base? (s : Surroundings) (named : Option String) (usual : List String) : Option Path := do
  let home ← s.home.filter (· ≠ "")
  match named.filter fun text => (Path.mk text).isAbsolute with
  | some text => return ⟨text⟩
  | none => return usual.foldl Path.join ⟨home⟩

/-- The directory of the configuration. -/
def configDirectory? (s : Surroundings) : Option Path :=
  (s.base? s.configHome [".config"]).map (·.join programName)

/-- The file of the configuration. -/
def configFile? (s : Surroundings) : Option Path :=
  s.configDirectory?.map (·.join (programName ++ ".toml"))

/-- The directory of the data. -/
def dataDirectory? (s : Surroundings) : Option Path :=
  (s.base? s.dataHome [".local", "share"]).map (·.join programName)

end Surroundings

/-- The directory of the library: the one of the configuration, or else the usual one. -/
def Configuration.libraryDirectory (c : Configuration) (s : Surroundings) : Except Failure Path :=
  match c.libraryPath with
  | some path => .ok ⟨path⟩
  | none =>
      match s.dataDirectory? with
      | some path => .ok (path.join "books")
      | none => .error (.settings .noDataDirectory)

end ArchiveSearch
