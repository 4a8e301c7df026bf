import ArchiveSearch.Numeric.Shortest

/-!
# Numbers in JSON

A number without fraction and exponent that fits 64 bits is an integer; any other number is a
double. The significand of a double keeps the leading digits that fit 64 bits and is then scaled
once by a power of ten. Doubles are written with the fewest digits that read back.
-/

namespace ArchiveSearch.Json

open Numeric

/-- An integer between `-2^63` and `2^64 - 1`, or a finite double. -/
inductive Number where
  | integer (value : Int)
  | double (value : Double)
deriving DecidableEq, Repr

namespace Number

/-- Numbers from 0.00001 to below 10^16 are written without an exponent, the others as `1.5e+300`
or `2.5e-8`. -/
def layout : Layout := ⟨-5, 16, "e+", "e-"⟩

/-- The text of a number. -/
def text : Number → String
  | integer value => toString value
  | double value => layout.text value

/-- Whether the number is zero, of either sign. -/
def isZero : Number → Bool
  | integer value => value == 0
  | double value => value.isZero

/-- The value of a decimal digit. -/
def digitValue (c : Char) : Nat := c.toNat - '0'.toNat

/-- Appends digits to a significand while it fits 64 bits, and counts the digits that it took. -/
def takeDigits (significand : Nat) : List Char → Nat × Nat
  | [] => (significand, 0)
  | c :: rest =>
      let next := 10 * significand + digitValue c
      if next < 1 <<< 64 then
        let (value, count) := takeDigits next rest
        (value, count + 1)
      else (significand, 0)

/-- The number with the given parts, or nothing when it is beyond the largest double. -/
def ofParts? (negative : Bool) (whole : List Char) (fraction : Option (List Char))
    (exponent : Option Int) : Option Number :=
  let (significand, taken) := takeDigits 0 whole
  let dropped := whole.length - taken
  if fraction.isNone && exponent.isNone && dropped == 0 then
    if !negative then some (.integer significand)
    else if 0 < significand && significand ≤ 1 <<< 63 then some (.integer (-significand))
    else (Magnitude.ofDecimal? significand 0).map fun m => .double ⟨negative, m⟩
  else
    let (significand, places) := takeDigits significand (fraction.getD [])
    let scale := (dropped : Int) - places + exponent.getD 0
    (Magnitude.ofDecimal? significand scale).map fun m => .double ⟨negative, m⟩

/-- Takes the digits at the front of a text, of which there must be one. -/
def readDigits? (s : List Char) : Option (List Char × List Char) :=
  match s.takeWhile Char.isDigit with
  | [] => none
  | digits => some (digits, s.dropWhile Char.isDigit)

/-- Reads an optional fraction. -/
def readFraction? : List Char → Option (Option (List Char) × List Char)
  | '.' :: s => (readDigits? s).map fun (digits, rest) => (some digits, rest)
  | s => some (none, s)

/-- Reads an optional sign. -/
def readSign : List Char → Bool × List Char
  | '-' :: s => (true, s)
  | '+' :: s => (false, s)
  | s => (false, s)

/-- Reads an optional exponent. -/
def readExponent? : List Char → Option (Option Int × List Char)
  | c :: s =>
      if c == 'e' || c == 'E' then do
        let sign := readSign s
        let (digits, rest) ← readDigits? sign.2
        let size := Nat.ofDigitChars 10 digits 0
        return (some (if sign.1 then -(size : Int) else size), rest)
      else some (none, c :: s)
  | [] => some (none, [])

/-- Reads an optional minus sign. -/
def readMinus : List Char → Bool × List Char
  | '-' :: s => (true, s)
  | s => (false, s)

/-- Reads the number at the front of a text. The text must have the form of a number, without
needless zeros in front; the number is missing when it is out of range. -/
def read? (s : List Char) : Option (Option Number × List Char) := do
  let minus := readMinus s
  let (whole, s) ← readDigits? minus.2
  guard (whole.head? ≠ some '0' ∨ whole.length = 1)
  let (fraction, s) ← readFraction? s
  let (exponent, s) ← readExponent? s
  return (ofParts? minus.1 whole fraction exponent, s)

end Number

end ArchiveSearch.Json
