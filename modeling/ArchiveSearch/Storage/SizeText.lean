import ArchiveSearch.Numeric.Double
import ArchiveSearch.Numeric.Rounding

/-!
# Sizes of files

A size is told in the largest unit of which there is more than a tenth, in tenths of the unit.
-/

namespace ArchiveSearch

open Numeric

/-- A size in tenths of a unit of `2 ^ power` bytes. The size is taken as a double first. -/
def sizeInTenths (bytes power : Nat) : String :=
  let x := (Magnitude.ofQuotient? bytes 1).getD Magnitude.zero
  tenthsText (roundQuotient (10 * x.numerator) (x.denominator <<< power))

/-- The size of a file for a person to read. -/
def sizeText (bytes : Nat) : String :=
  if 1 <<< 20 < 10 * bytes then sizeInTenths bytes 20 ++ " MiB"
  else if 1 <<< 10 < 10 * bytes then sizeInTenths bytes 10 ++ " KiB"
  else toString bytes ++ " B"

end ArchiveSearch
