import ArchiveSearch.Calendar.Timestamp
import ArchiveSearch.Text.Blank

/-!
# Time zones

A zone is a fixed offset from universal time, or the local zone, whose offset is what the clocks
around the program show. It is one offset as well: clocks that are changed within a year are left
out. Timestamps are converted by way of the instant that they name.
-/

namespace ArchiveSearch.Calendar

/-- An offset from universal time of less than a day, in seconds. -/
structure Offset where
  seconds : Int
  within : -86400 < seconds ∧ seconds < 86400 := by omega
deriving DecidableEq, Repr

namespace Offset

/-- That of universal time. -/
def zero : Offset := { seconds := 0 }

/-- An offset of the given number of seconds if that is less than a day. -/
def ofSeconds? (seconds : Int) : Option Offset :=
  if h : -86400 < seconds ∧ seconds < 86400 then some ⟨seconds, h⟩ else none

/-- The written form: sign, hours and minutes, and seconds if there are any. -/
def text (o : Offset) : String :=
  let n := o.seconds.natAbs
  (if o.seconds < 0 then "-" else "+") ++ padded 2 (n / 3600) ++ ":" ++ padded 2 (n / 60 % 60) ++
    (if n % 60 = 0 then "" else ":" ++ padded 2 (n % 60))

/-- The seconds of two digits each of hours and minutes. -/
def secondsOf (h₁ h₂ m₁ m₂ : Char) : Nat :=
  (Nat.ofDigitChars 10 [h₁, h₂] 0 * 60 + Nat.ofDigitChars 10 [m₁, m₂] 0) * 60

/-- Reads hours and minutes, with colons or blanks between them; what follows is not read. -/
def readSeconds? : List Char → Option Nat
  | h₁ :: h₂ :: rest =>
      match rest.dropWhile fun c => c == ':' || Text.isBlank c with
      | m₁ :: m₂ :: _ =>
          if [h₁, h₂, m₁, m₂].all Char.isDigit && m₁ ≤ '5' then some (secondsOf h₁ h₂ m₁ m₂)
          else none
      | _ => none
  | _ => none

/-- Reads an offset. The minus may be the mathematical sign. -/
def read? : List Char → Option Offset
  | '+' :: rest => do ofSeconds? (← readSeconds? rest)
  | '-' :: rest => do ofSeconds? (-(← readSeconds? rest))
  | '\u2212' :: rest => do ofSeconds? (-(← readSeconds? rest))
  | _ => none

end Offset

/-- The zone that stored timestamps are expressed in. -/
inductive Zone where
  | localZone (offset : Offset := .zero)
  | fixed (offset : Offset)
deriving DecidableEq, Repr

namespace Zone

/-- Universal time. -/
def utc : Zone := .fixed .zero

/-- The seconds by which the clocks of the zone are ahead of universal time. -/
def ahead : Zone → Int
  | localZone offset => offset.seconds
  | fixed offset => offset.seconds

/-- The name of a zone: `local` or its offset. -/
def text : Zone → String
  | localZone _ => "local"
  | fixed offset => offset.text

/-- Reads a zone, without regard to case or to blanks around it. The local one is where the clocks
have the given offset. -/
def read? (name : String) (clocks : Offset := .zero) : Option Zone :=
  let name := (String.ofList (Text.strip name.toList)).toLower
  if name = "local" then some (.localZone clocks)
  else if name = "utc" ∨ name = "z" then some .utc
  else (Offset.read? name.toList).map .fixed

/-- Converts a timestamp of universal time. -/
def utcToLocal? (z : Zone) (digits : String) : Option String :=
  (Instant.read? digits).map fun t => (t.later z.ahead).text

/-- Converts a timestamp of the zone to universal time. -/
def localToUtc? (z : Zone) (digits : String) : Option String :=
  (Instant.read? digits).map fun t => (t.later (-z.ahead)).text

end Zone

end ArchiveSearch.Calendar
