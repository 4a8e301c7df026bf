/-!
# Rounding a quotient

The nearest natural number to a quotient, a tie going to the even neighbour, and the text of a
quotient with a fixed number of decimal places.
-/

namespace ArchiveSearch.Numeric

/-- The natural number nearest to `num / den`; of two equally near ones, the even one. -/
def roundQuotient (num den : Nat) : Nat :=
  let q := num / den
  let r := num % den
  if 2 * r < den then q
  else if 2 * r = den ∧ q % 2 = 0 then q
  else q + 1

/-- The decimal digits of a number, followed by those of its tenths after a point. -/
def tenthsText (tenths : Nat) : String :=
  toString (tenths / 10) ++ "." ++ toString (tenths % 10)

end ArchiveSearch.Numeric
