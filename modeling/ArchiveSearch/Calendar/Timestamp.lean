import ArchiveSearch.Calendar.Date

/-!
# Timestamps

A timestamp is written with 17 digits: four for the year, two each for month, day, hour, minute and
second, and three for the milliseconds. Parts that are too large are carried over, and a month or
day 00 is read as 01, so that every 17 digits name an instant.
-/

namespace ArchiveSearch.Calendar

/-- The number of digits of a timestamp. -/
def timestampWidth : Nat := 17

/-- The smallest timestamp. -/
def minTimestamp : String := "00000000000000000"

/-- The largest timestamp. -/
def maxTimestamp : String := "99999999999999999"

/-- Fills a text up at its end to the width of a timestamp, counted in bytes. -/
def fillTimestamp (digits : String) (fill : Char) : String :=
  let missing := timestampWidth - digits.utf8ByteSize
  digits ++ String.ofList (List.replicate ((missing + fill.utf8Size - 1) / fill.utf8Size) fill)

/-- An instant, in milliseconds from the beginning of the year 0. -/
structure Instant where
  millis : Int
deriving DecidableEq, Repr

/-- The parts of a timestamp as they are written. -/
structure Parts where
  year : Nat
  month : Nat
  day : Nat
  hour : Nat
  minute : Nat
  second : Nat
  milli : Nat
deriving DecidableEq, Repr

namespace Parts

/-- The number that the digits in a stretch of a text stand for. -/
def number (digits : List Char) (start count : Nat) : Nat :=
  Nat.ofDigitChars 10 ((digits.drop start).take count) 0

/-- Reads the parts of a timestamp. -/
def read? (text : String) : Option Parts :=
  let digits := text.toList
  if digits.length = timestampWidth ∧ digits.all Char.isDigit then
    some {
      year := number digits 0 4
      month := number digits 4 2
      day := number digits 6 2
      hour := number digits 8 2
      minute := number digits 10 2
      second := number digits 12 2
      milli := number digits 14 3 }
  else none

/-- The number of the day that is reached from the first of January of the year by going on by
months and then by days. -/
def dayNumber (p : Parts) : Int :=
  let months := p.month - 1
  let year : Int := p.year + (months / 12 : Nat)
  yearStart year + monthStart year (months % 12) + (p.day - 1 : Nat)

/-- The instant that the parts name, each carried over where it is too large. -/
def instant (p : Parts) : Instant where
  millis := (((p.dayNumber * 24 + p.hour) * 60 + p.minute) * 60 + p.second) * 1000 + p.milli

end Parts

/-- A number with zeros in front up to a width. -/
def padded (width n : Nat) : String :=
  let digits := Nat.toDigits 10 n
  String.ofList (List.replicate (width - digits.length) '0' ++ digits)

/-- A year in at least four characters, its sign included. -/
def yearText (year : Int) : String :=
  if year < 0 then "-" ++ padded 3 year.natAbs else padded 4 year.toNat

namespace Instant

/-- The instant a number of seconds later. -/
def later (t : Instant) (seconds : Int) : Instant where
  millis := t.millis + 1000 * seconds

/-- The written form of an instant, its timestamp if its year has four digits. -/
def text (t : Instant) : String :=
  let date := Date.ofDayNumber (t.millis / 86400000)
  let rest := (t.millis % 86400000).toNat
  yearText date.year ++ padded 2 date.month ++ padded 2 date.day ++
    padded 2 (rest / 3600000) ++ padded 2 (rest / 60000 % 60) ++ padded 2 (rest / 1000 % 60) ++
    padded 3 (rest % 1000)

/-- The instant that a timestamp names. -/
def read? (text : String) : Option Instant :=
  (Parts.read? text).map Parts.instant

end Instant

end ArchiveSearch.Calendar
