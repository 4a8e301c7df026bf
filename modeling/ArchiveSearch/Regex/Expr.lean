import ArchiveSearch.Regex.CharSet

/-!
# Regular expressions

What an expression matches is a set of spans of a text. The engine computes, for a set of
positions where a match may begin, the set of positions where it may end. Sets of positions are
lists in descending order, so that positions newly reached further on are put in front.
-/

namespace ArchiveSearch.Regex

/-- Which characters count as word characters at a boundary. -/
inductive Alphabet where
  | unicode
  | basic
deriving DecidableEq, Repr

/-- Whether a neighbouring character is a word character; the ends of the text are none. -/
def Alphabet.hasWord (alphabet : Alphabet) (c : Option Char) : Bool :=
  match alphabet, c with
  | _, none => false
  | .unicode, some c => Text.isWord c
  | .basic, some c => c.isAlphanum || c == '_'

/-- A test of a position by the characters before and after it. -/
inductive Look where
  | startText
  | endText
  | startLine
  | endLine
  /-- Lines may end in a line feed, a carriage return, or both in that order. -/
  | startAnyLine
  | endAnyLine
  | boundary (alphabet : Alphabet)
  | notBoundary (alphabet : Alphabet)
  | startWord (alphabet : Alphabet)
  | endWord (alphabet : Alphabet)
  | startWordHalf (alphabet : Alphabet)
  | endWordHalf (alphabet : Alphabet)
deriving DecidableEq, Repr

/-- Whether a position between two characters passes the test. -/
def Look.holds (before after : Option Char) : Look → Bool
  | startText => before.isNone
  | endText => after.isNone
  | startLine => before.all (· == '\n')
  | endLine => after.all (· == '\n')
  | startAnyLine => before.all (· == '\n') || (before == some '\r' && after != some '\n')
  | endAnyLine => after.all (· == '\r') || (after == some '\n' && before != some '\r')
  | boundary w => w.hasWord before != w.hasWord after
  | notBoundary w => w.hasWord before == w.hasWord after
  | startWord w => !w.hasWord before && w.hasWord after
  | endWord w => w.hasWord before && !w.hasWord after
  | startWordHalf w => !w.hasWord before
  | endWordHalf w => !w.hasWord after

/-- A regular expression, its flags resolved. -/
inductive Expr where
  | empty
  | set (s : CharSet)
  | look (l : Look)
  | seq (a b : Expr)
  | alt (a b : Expr)
  /-- At least `min` and at most `max` matches, one after the other. -/
  | repeated (e : Expr) (min : Nat) (max : Option Nat)
  /-- A group that remembers its span. -/
  | capture (e : Expr)

/-- Positions in descending order, each once. -/
abbrev Positions := List Nat

namespace Positions

/-- The positions of both lists. -/
def merge : Positions → Positions → Positions
  | [], b => b
  | a, [] => a
  | x :: a, y :: b =>
      if y < x then x :: merge a (y :: b)
      else if x < y then y :: merge (x :: a) b
      else x :: merge a b
termination_by a b => a.length + b.length

/-- The positions of the first list that are not in the second. -/
def minus : Positions → Positions → Positions
  | [], _ => []
  | a, [] => a
  | x :: a, y :: b =>
      if y < x then x :: minus a (y :: b)
      else if x < y then minus (x :: a) b
      else minus a b
termination_by a b => a.length + b.length

/-- Every position of a text of the given length, its end included. -/
def upTo : Nat → Positions
  | 0 => [0]
  | n + 1 => (n + 1) :: upTo n

/-- Applies a function `n` times, or until it changes nothing. -/
def iterate (f : Positions → Positions) : Nat → Positions → Positions
  | 0, ps => ps
  | n + 1, ps =>
      let next := f ps
      if next = ps then ps else iterate f n next

/-- Adds to `seen` what `fresh` leads to in at most `n` steps; the positions that were already
there need not be followed again. -/
def reach (f : Positions → Positions) : Nat → Positions → Positions → Positions
  | 0, seen, _ => seen
  | n + 1, seen, fresh =>
      let next := minus (f fresh) seen
      if next = [] then seen else reach f n (merge next seen) next

end Positions

namespace Expr

/-- The positions where a match may end that begins at one of the given positions. -/
def ends (text : Array Char) : Expr → Positions → Positions
  | empty, ps => ps
  | set s, ps => ps.filterMap fun i =>
      match text[i]? with
      | some c => if s.contains c.toNat then some (i + 1) else none
      | none => none
  | look l, ps => ps.filter fun i =>
      l.holds (if i = 0 then none else text[i - 1]?) text[i]?
  | seq a b, ps => ends text b (ends text a ps)
  | alt a b, ps => Positions.merge (ends text a ps) (ends text b ps)
  | repeated e min max, ps =>
      let start := Positions.iterate (fun ps => ends text e ps) min ps
      let rounds := match max with
        | some max => max - min
        | none => text.size + 1
      Positions.reach (fun ps => ends text e ps) rounds start start
  | capture e, ps => ends text e ps

/-- Whether the expression matches some part of the text. -/
def matchesIn (e : Expr) (text : String) : Bool :=
  let chars := text.toList.toArray
  !(e.ends chars (Positions.upTo chars.size)).isEmpty

end Expr

end ArchiveSearch.Regex
