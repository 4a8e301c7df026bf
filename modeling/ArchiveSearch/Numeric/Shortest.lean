import ArchiveSearch.Numeric.Double

/-!
# The shortest decimal that reads back

The reals that round to a given double form an interval around it. Among the decimals in that
interval the ones with the fewest digits are the shortest texts that read back, and of those the
nearest to the double is chosen. How such digits are laid out is a separate decision, recorded in
a `Layout`.
-/

namespace ArchiveSearch.Numeric

/-- Decimal digits and the power of ten of the first of them. -/
structure Decimal where
  digits : List Char
  exponent : Int
deriving DecidableEq, Repr

namespace Magnitude

/-- The ends of the interval of reals that round to `x`, in units of `2 ^ (x.exponent - 2)`. Below
a power of two the spacing of the doubles is halved. -/
def interval (x : Magnitude) : Nat × Nat :=
  let low := if x.mantissa = 1 <<< 52 ∧ minExponent < x.exponent then 1 else 2
  (4 * x.mantissa - low, 4 * x.mantissa + 2)

/-- Whether `n * 10 ^ p` rounds to `x`; the ends of the interval do when the mantissa is even. -/
def accepts (x : Magnitude) (n : Nat) (p : Int) : Bool :=
  let (low, high) := x.interval
  let unit := x.exponent - 2
  let value := (n * Nat.pow 10 p.toNat) <<< (-unit).toNat
  let scale := Nat.pow 10 (-p).toNat <<< unit.toNat
  if x.mantissa % 2 = 0 then low * scale ≤ value && value ≤ high * scale
  else low * scale < value && value < high * scale

/-- The power of ten of the first decimal digit of a positive number. -/
def leadingPlace (x : Magnitude) : Int :=
  let num := x.numerator
  let den := x.denominator
  if den ≤ num then ((Nat.toDigits 10 (num / den)).length : Int) - 1
  else
    let k := (Nat.toDigits 10 (den / num)).length
    if den ≤ num * Nat.pow 10 (k - 1) then -((k : Int) - 1) else -(k : Int)

/-- The better of the two neighbours of `x` among the multiples of `10 ^ p`, if one rounds to `x`. -/
def neighbour? (x : Magnitude) (p : Int) : Option Nat :=
  let num := x.numerator * Nat.pow 10 (-p).toNat
  let den := x.denominator * Nat.pow 10 p.toNat
  let below := num / den
  let nearest := roundQuotient num den
  let other := if nearest = below then below + 1 else below
  if x.accepts nearest p then some nearest
  else if x.accepts other p then some other
  else none

/-- The first grid that has a decimal which rounds to `x`, from the grid of `18 - places` digits to
that of seventeen digits, which always has one. -/
def shortestFrom (x : Magnitude) (lead : Int) : Nat → Option (Nat × Int)
  | 0 => none
  | places + 1 =>
      let p := lead - (16 - places : Nat)
      match x.neighbour? p with
      | some n => some (n, p)
      | none => x.shortestFrom lead places

/-- The shortest decimal that rounds to a positive number, without zeros at its end. -/
def shortest (x : Magnitude) : Decimal :=
  let (n, p) := (x.shortestFrom x.leadingPlace 17).getD (0, 0)
  let digits := Nat.toDigits 10 n
  let kept := (digits.reverse.dropWhile (· == '0')).reverse
  ⟨kept, p + digits.length - 1⟩

end Magnitude

/-- How the digits of a number are laid out. -/
structure Layout where
  /-- The least power of ten that is written without an exponent. -/
  firstPositional : Int
  /-- The least power of ten above those that is written with an exponent. -/
  firstScientific : Int
  /-- The text between the digits and a positive exponent, and before a negative one. -/
  positiveMark : String
  negativeMark : String

namespace Layout

/-- The digits with a point after the place of units, at least one digit on each side. -/
def positional (d : Decimal) : String :=
  if d.exponent < 0 then
    "0." ++ String.ofList (List.replicate ((-d.exponent).toNat - 1) '0' ++ d.digits)
  else
    let whole := d.exponent.toNat + 1
    let padded := d.digits ++ List.replicate (whole - d.digits.length) '0'
    let fraction := padded.drop whole
    String.ofList (padded.take whole) ++ "." ++
      (if fraction.isEmpty then "0" else String.ofList fraction)

/-- One digit, the others after a point, then the exponent. -/
def scientific (layout : Layout) (d : Decimal) : String :=
  let rest := d.digits.drop 1
  let point := if rest.isEmpty then "" else "."
  let mark := if d.exponent < 0 then layout.negativeMark else layout.positiveMark
  String.ofList (d.digits.take 1) ++ point ++ String.ofList rest ++ mark ++
    toString d.exponent.natAbs

/-- The text of a double. -/
def text (layout : Layout) (x : Double) : String :=
  let sign := if x.negative then "-" else ""
  if x.isZero then sign ++ "0.0"
  else
    let d := x.magnitude.shortest
    if layout.firstPositional ≤ d.exponent ∧ d.exponent < layout.firstScientific then
      sign ++ positional d
    else sign ++ layout.scientific d

end Layout

end ArchiveSearch.Numeric
