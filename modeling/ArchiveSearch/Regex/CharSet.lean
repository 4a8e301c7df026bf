import ArchiveSearch.Text.Blank
import ArchiveSearch.Text.CaseFold
import ArchiveSearch.Text.Word

/-!
# Sets of characters

A set is an expression over ranges of code points; membership is decided by recursion on it. The
closure under case adds to a set every character that is the same letter as one of its members.
-/

namespace ArchiveSearch.Regex

open Text

/-- A set of code points. -/
inductive CharSet where
  | ranges (rs : Ranges)
  /-- All forms of one letter. -/
  | alike (n : Nat)
  | union (a b : CharSet)
  | inter (a b : CharSet)
  | diff (a b : CharSet)
  | compl (a : CharSet)
  /-- The closure under simple case folding. -/
  | anyCase (a : CharSet)
  /-- The closure under the case of the 26 basic letters. -/
  | anyBasicCase (a : CharSet)

namespace CharSet

/-- A basic letter and its other case, or a code point alone. -/
def basicForms (n : Nat) : List Nat :=
  if 0x41 ≤ n ∧ n ≤ 0x5a then [n, n + 0x20]
  else if 0x61 ≤ n ∧ n ≤ 0x7a then [n, n - 0x20]
  else [n]

/-- Whether a code point belongs to the set. -/
def contains : CharSet → Nat → Bool
  | ranges rs, n => rs.holds n
  | alike m, n => foldCode n == foldCode m
  | union a b, n => a.contains n || b.contains n
  | inter a b, n => a.contains n && b.contains n
  | diff a b, n => a.contains n && !b.contains n
  | compl a, n => !a.contains n
  | anyCase a, n => (letterForms n).any fun m => a.contains m
  | anyBasicCase a, n => (basicForms n).any fun m => a.contains m

def empty : CharSet := ranges #[]

def full : CharSet := ranges #[(0, 0x10ffff)]

def single (c : Char) : CharSet := ranges #[(c.toNat, c.toNat)]

def span (first last : Char) : CharSet := ranges #[(first.toNat, last.toNat)]

def symmetricDiff (a b : CharSet) : CharSet := diff (union a b) (inter a b)

def digits : CharSet := ranges digitRanges

def words : CharSet := ranges wordRanges

/-- White space, as ranges. -/
def blanks : CharSet :=
  ranges #[(0x9, 0xd), (0x20, 0x20), (0x85, 0x85), (0xa0, 0xa0), (0x1680, 0x1680),
    (0x2000, 0x200a), (0x2028, 0x2029), (0x202f, 0x202f), (0x205f, 0x205f), (0x3000, 0x3000)]

def basicDigits : CharSet := ranges #[(0x30, 0x39)]

def basicWords : CharSet := ranges #[(0x30, 0x39), (0x41, 0x5a), (0x5f, 0x5f), (0x61, 0x7a)]

def basicBlanks : CharSet := ranges #[(0x9, 0xd), (0x20, 0x20)]

end CharSet

end ArchiveSearch.Regex
