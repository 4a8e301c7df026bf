/-!
# Dates

Days are counted from the first day of the year 0 of the Gregorian calendar, which is taken to hold
for all years. A date is found from its number by an estimate of the year that is off by at most
one, and then month by month.
-/

namespace ArchiveSearch.Calendar

/-- Whether a year has a leap day. -/
def isLeapYear (year : Int) : Bool :=
  year % 4 == 0 && (year % 100 != 0 || year % 400 == 0)

/-- The number of the first day of a year. -/
def yearStart (year : Int) : Int :=
  365 * year + (year + 3) / 4 - (year + 99) / 100 + (year + 399) / 400

/-- The lengths of the months of a year, in days. -/
def monthLengths (year : Int) : List Nat :=
  [31, if isLeapYear year then 29 else 28, 31, 30, 31, 30, 31, 31, 30, 31, 30, 31]

/-- The number of days of a year before its month of the given index, January being 0. -/
def monthStart (year : Int) (index : Nat) : Nat :=
  ((monthLengths year).take index).foldl (· + ·) 0

/-- A date by its year, its month from 1 to 12 and its day from 1 on. -/
structure Date where
  year : Int
  month : Nat
  day : Nat
deriving DecidableEq, Repr

/-- The year in which a day lies. A year has 146097 / 400 days on average. -/
def yearOf (day : Int) : Int :=
  let estimate := 400 * day / 146097
  if day < yearStart estimate then estimate - 1
  else if yearStart (estimate + 1) ≤ day then estimate + 1
  else estimate

/-- Splits a number of days among months of the given lengths: the index of the month, and the
days that have gone by in it. -/
def locate : List Nat → Nat → Nat × Nat
  | [], days => (0, days)
  | length :: rest, days =>
      if days < length then (0, days)
      else
        let (index, left) := locate rest (days - length)
        (index + 1, left)

namespace Date

/-- The number of the day of a date. -/
def dayNumber (d : Date) : Int :=
  yearStart d.year + monthStart d.year (d.month - 1) + (d.day - 1 : Nat)

/-- The date of the day with the given number. -/
def ofDayNumber (n : Int) : Date :=
  let year := yearOf n
  let (index, left) := locate (monthLengths year) (n - yearStart year).toNat
  ⟨year, index + 1, left + 1⟩

end Date

end ArchiveSearch.Calendar
