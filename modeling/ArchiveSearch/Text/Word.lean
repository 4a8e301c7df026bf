import ArchiveSearch.Text.Category
import ArchiveSearch.Text.Property

/-!
# Digits and word characters

The characters that a decimal digit, a letter and a word may consist of in the sense of Unicode.
-/

namespace ArchiveSearch.Text

/-- The members of the general categories with the given short names. -/
def categoryRanges (names : List String) : List (Nat × Nat) :=
  names.flatMap fun name => ((NamedRanges.find? categories name).getD #[]).toList

/-- The members of a property. -/
def propertyRanges (name : String) : List (Nat × Nat) :=
  ((NamedRanges.find? properties name).getD #[]).toList

/-- The decimal digits of all scripts. -/
def digitRanges : Ranges := .unite (categoryRanges ["nd"])

/-- Letters, marks, decimal digits, connecting punctuation and joiners: what words consist of. -/
def wordRanges : Ranges :=
  .unite (propertyRanges "alpha" ++ categoryRanges ["mn", "mc", "me", "nd", "pc"] ++
    propertyRanges "joinc")

/-- The alphabetic characters. -/
def alphabeticRanges : Ranges := .unite (propertyRanges "alpha")

/-- The alphabetic characters and the numbers of all kinds. -/
def alphanumericRanges : Ranges :=
  .unite (propertyRanges "alpha" ++ categoryRanges ["nd", "nl", "no"])

/-- The characters that are shown as something, blanks other than the space excepted. -/
def shownRanges : Ranges :=
  .unite ((0x20, 0x20) :: categoryRanges
    ["lu", "ll", "lt", "lm", "lo", "mn", "mc", "me", "nd", "nl", "no", "pc", "pd", "ps", "pe",
      "pi", "pf", "po", "sm", "sc", "sk", "so"])

/-- The characters that extend the one before them to one that the user perceives. -/
def extendingRanges : Ranges := .unite (propertyRanges "grext")

/-- Whether a character is a word character. -/
def isWord (c : Char) : Bool := wordRanges.holds c.toNat

end ArchiveSearch.Text
