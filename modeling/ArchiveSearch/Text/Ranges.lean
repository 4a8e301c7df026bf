/-!
# Sets of code points written as ranges

A table of characters is kept as rows of ranges, two hexadecimal numbers joined by a dash or one
number alone, in ascending order and separated by blanks. Reading the rows gives an array that is
searched by halving.
-/

namespace ArchiveSearch.Text

/-- Inclusive ranges of code points, ascending and apart from each other. -/
abbrev Ranges := Array (Nat × Nat)

namespace Ranges

/-- The value of a lower-case hexadecimal digit. -/
def digitValue (c : Char) : Nat :=
  if c.isDigit then c.toNat - '0'.toNat else c.toNat - 'a'.toNat + 10

/-- A reader in the middle of a range: the ranges so far, the start of the range if its dash has
been read, and the number being read if it has a digit. -/
structure Progress where
  done : Ranges := #[]
  first : Option Nat := none
  number : Option Nat := none

/-- Closes the range being read, if there is one. -/
def Progress.close (p : Progress) : Ranges :=
  match p.number with
  | some n => p.done.push (p.first.getD n, n)
  | none => p.done

/-- One character of the text of a table. -/
def Progress.step (p : Progress) (c : Char) : Progress :=
  if c == '-' then { p with first := p.number, number := none }
  else if c == ' ' then { done := p.close }
  else { p with number := some (16 * p.number.getD 0 + digitValue c) }

/-- Adds the ranges of a row such as `41-5a 5f`. -/
def readRow (done : Ranges) (row : String) : Ranges :=
  (row.toList.foldl Progress.step { done }).close

/-- The ranges of the rows of a table. -/
def read (rows : List String) : Ranges :=
  rows.foldl readRow #[]

/-- Whether `n` lies in one of the ranges at positions `lo` up to `hi`. -/
def holdsBetween (rs : Ranges) (n lo hi : Nat) : Bool :=
  if lo < hi then
    let mid := (lo + hi) / 2
    let (first, last) := rs.getD mid (0, 0)
    if n < first then holdsBetween rs n lo mid
    else if last < n then holdsBetween rs n (mid + 1) hi
    else true
  else false
termination_by hi - lo

/-- Whether a code point lies in one of the ranges. -/
def holds (rs : Ranges) (n : Nat) : Bool :=
  rs.holdsBetween n 0 rs.size

/-- Joins ranges that overlap or touch; the ranges must come in order of their starts. -/
def joinTouching : List (Nat × Nat) → List (Nat × Nat)
  | (first, last) :: (next, end_) :: rest =>
      if next ≤ last + 1 then joinTouching ((first, max last end_) :: rest)
      else (first, last) :: joinTouching ((next, end_) :: rest)
  | ranges => ranges
termination_by ranges => ranges.length

/-- The ranges of the code points that lie in one of the given ranges, in any order. -/
def unite (ranges : List (Nat × Nat)) : Ranges :=
  (joinTouching (ranges.mergeSort fun a b => a.1 ≤ b.1)).toArray

end Ranges

/-- A set of characters under its names, the members written as rows of ranges. -/
structure NamedRanges where
  names : List String
  members : List String

/-- The ranges that a table lists under a name. -/
def NamedRanges.find? (table : List NamedRanges) (name : String) : Option Ranges :=
  (table.find? fun entry => entry.names.contains name).map fun entry => .read entry.members

end ArchiveSearch.Text
