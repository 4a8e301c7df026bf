import ArchiveSearch.Numeric.Rounding

/-!
# Finite doubles

Sizes of finite double-precision numbers, `mantissa * 2 ^ exponent`, with rounding to nearest done
in exact arithmetic. A size is canonical: its mantissa has 53 bits unless its exponent is the
smallest one.
-/

namespace ArchiveSearch.Numeric

/-- The size of a finite double. -/
structure Magnitude where
  mantissa : Nat
  exponent : Int
deriving DecidableEq, Repr

/-- A finite double: a sign and a size. -/
structure Double where
  negative : Bool
  magnitude : Magnitude
deriving DecidableEq, Repr

namespace Magnitude

/-- The smallest exponent, that of zero and of the numbers below the normal range. -/
def minExponent : Int := -1074

/-- The largest exponent of a finite double. -/
def maxExponent : Int := 971

def zero : Magnitude := ⟨0, minExponent⟩

/-- The size as a quotient of natural numbers. -/
def numerator (x : Magnitude) : Nat := x.mantissa <<< x.exponent.toNat

def denominator (x : Magnitude) : Nat := 1 <<< (-x.exponent).toNat

/-- `num / den` in units of `2 ^ e`, rounded to nearest. -/
def inUnits (num den : Nat) (e : Int) : Nat :=
  roundQuotient (num <<< (-e).toNat) (den <<< e.toNat)

/-- The exponent that gives `num / den` a mantissa of 53 bits, but never less than the smallest. -/
def exponentOf (num den : Nat) : Int :=
  let e := (num.log2 : Int) - den.log2 - 52
  let e := if num <<< (-e).toNat < den <<< e.toNat <<< 52 then e - 1 else e
  max e minExponent

/-- The double nearest to `num / den`, or nothing when that is beyond the largest one. -/
def ofQuotient? (num den : Nat) : Option Magnitude :=
  if num = 0 then some zero
  else
    let e := exponentOf num den
    let m := inUnits num den e
    let x : Magnitude := if m = 1 <<< 53 then ⟨1 <<< 52, e + 1⟩ else ⟨m, e⟩
    if x.exponent ≤ maxExponent then some x else none

/-- The rounded product of two sizes. -/
def mul? (x y : Magnitude) : Option Magnitude :=
  ofQuotient? (x.numerator * y.numerator) (x.denominator * y.denominator)

/-- The rounded quotient of two sizes. -/
def div? (x y : Magnitude) : Option Magnitude :=
  ofQuotient? (x.numerator * y.denominator) (x.denominator * y.numerator)

/-- The double nearest to a power of ten whose exponent is at most 308. -/
def powerOfTen (k : Nat) : Magnitude :=
  (ofQuotient? (Nat.pow 10 k) 1).getD zero

/-- Divides by `10 ^ k`, in steps of 308 places; each step rounds, and zero ends the division. -/
def dropPlaces (x : Magnitude) (k : Nat) : Magnitude :=
  if k ≤ 308 then (x.div? (powerOfTen k)).getD zero
  else if x.mantissa = 0 then x
  else ((x.div? (powerOfTen 308)).getD zero).dropPlaces (k - 308)
termination_by k

/-- A decimal significand scaled by a power of ten: both are rounded to doubles first, and so is
their product or quotient. -/
def ofDecimal? (significand : Nat) (exponent : Int) : Option Magnitude := do
  let x ← ofQuotient? significand 1
  if exponent < 0 then return x.dropPlaces (-exponent).toNat
  else if exponent ≤ 308 then x.mul? (powerOfTen exponent.toNat)
  else if significand = 0 then return x
  else none

end Magnitude

namespace Double

/-- Whether the number is zero, of either sign. -/
def isZero (x : Double) : Bool := x.magnitude.mantissa == 0

end Double

end ArchiveSearch.Numeric
