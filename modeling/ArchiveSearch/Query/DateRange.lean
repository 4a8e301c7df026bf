import ArchiveSearch.Calendar.Zone

/-!
# Ranges of timestamps

A range is written as two prefixes of timestamps with a dash between them, either of which may be
left out. Timestamps of one zone are compared as texts.
-/

namespace ArchiveSearch.Query

open Calendar

/-- The timestamps from one to another, both included. -/
structure DateRange where
  first : String
  last : String
deriving DecidableEq, Repr

namespace DateRange

/-- Whether a timestamp lies in the range. -/
def contains (r : DateRange) (timestamp : String) : Bool :=
  decide (r.first ≤ timestamp) && decide (timestamp ≤ r.last)

/-- The written form of a range. -/
def text (r : DateRange) : String := r.first ++ "-" ++ r.last

/-- Whether a text may stand on one side of a range: at most 17 digits. -/
def isSide (text : List Char) : Bool :=
  text.length ≤ timestampWidth && text.all Char.isDigit

/-- The two sides of a range as they are written. -/
def sides? (term : String) : Option (List Char × List Char) :=
  let first := term.toList.takeWhile (· != '-')
  let last := (term.toList.dropWhile (· != '-')).drop 1
  if isSide first && isSide last then some (first, last) else none

/-- The timestamp of one side in the given zone: a prefix is filled up with zeros, and a side that
is left out is taken as it is. -/
def bound? (zone : Zone) (missing : String) (side : List Char) : Option String :=
  if side.isEmpty then some missing
  else zone.utcToLocal? (fillTimestamp (String.ofList side) '0')

/-- Reads a range of timestamps of universal time and converts it to the given zone. -/
def ofTerm? (zone : Zone) (term : String) : Option DateRange := do
  let (first, last) ← sides? term
  return {
    first := ← bound? zone minTimestamp first
    last := ← bound? zone maxTimestamp last }

end DateRange

end ArchiveSearch.Query
