import ArchiveSearch.Query.Reader
import ArchiveSearch.Storage.Load

/-!
# Configuration

What the user has settled once for all searches: where the library is, what is searched for
besides the query, how texts are judged, and the time zone of timestamps. Numbers of hours and of
mebibytes are turned into limits without overflow; zero stands for no limit.
-/

namespace ArchiveSearch

/-- The choices of the user. -/
structure Configuration where
  /-- The directory of the library, if it is not the usual one. -/
  libraryPath : Option String := none
  /-- The number of results that are shown for a book. -/
  maxResults : Nat := 1000
  logLevel : String := "info"
  /-- A search that always applies. -/
  defaultSearch : String := ""
  /-- The name that bare terms go by at first. -/
  defaultField : String := Query.defaultField
  parallelBooks : Bool := true
  /-- The age in hours from which texts may be out of date. -/
  textAgeHours : Nat := 120
  /-- The size in mebibytes up to which texts are read. -/
  textSizeMebibytes : Nat := 0
  zoneName : String := "local"
deriving DecidableEq, Repr

namespace Configuration

/-- The largest number of 64 bits. -/
def largest : Nat := (1 <<< 64) - 1

/-- A number of units as a limit; zero is no limit, and the limit stays within 64 bits. -/
def limitOf (unit n : Nat) : Option Nat :=
  if n = 0 then none else some (min (n * unit) largest)

/-- What is asked of the files of texts. -/
def loadOptions (c : Configuration) : LoadOptions where
  threshold := limitOf 3600 c.textAgeHours
  sizeLimit := limitOf 1048576 c.textSizeMebibytes

/-- The time zone of timestamps, where the local clocks have the given offset. -/
def zone (c : Configuration) (clocks : Calendar.Offset := .zero) : Except Failure Calendar.Zone :=
  match Calendar.Zone.read? c.zoneName clocks with
  | some zone => .ok zone
  | none => .error (.settings (.unknownZone c.zoneName))

/-- The reader of queries, where the local clocks have the given offset. -/
def reader (c : Configuration) (clocks : Calendar.Offset := .zero) :
    Except Failure Query.Reader := do
  return { zone := ← c.zone clocks, bareName := c.defaultField }

end Configuration

end ArchiveSearch
