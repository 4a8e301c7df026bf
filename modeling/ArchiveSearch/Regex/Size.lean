import ArchiveSearch.Regex.Expr

/-!
# The size of an expression

An expression of the user is refused if the automaton for it would take too much memory. The
estimate follows the automaton over the bytes of encoded characters: states of 32 bytes, more for
a state with several ways out, and a copy of the repeated part for every counted repetition.
-/

namespace ArchiveSearch.Regex

open Text

namespace CharSet

/-- The code points before, between and behind ascending ranges, from `start` on. -/
def gaps (start : Nat) : List (Nat × Nat) → List (Nat × Nat)
  | [] => if start ≤ 0x10ffff then [(start, 0x10ffff)] else []
  | (first, last) :: rest =>
      if start < first then (start, first - 1) :: gaps (last + 1) rest else gaps (last + 1) rest

/-- The pairs of a code point and its different folding. -/
def foldings : List (Nat × Nat) :=
  foldRuns.flatMap fun r =>
    (List.range ((r.last - r.first) / r.stride + 1)).map fun k =>
      (r.first + k * r.stride, r.target + k * r.stride)

/-- Adds the foldings of all members and then whatever has a member as its folding. -/
def closeUnder (pairs : List (Nat × Nat)) (rs : Ranges) : Ranges :=
  let folded := Ranges.unite (rs.toList ++ pairs.filterMap fun (source, target) =>
    if rs.holds source then some (target, target) else none)
  Ranges.unite (folded.toList ++ pairs.filterMap fun (source, target) =>
    if folded.holds target then some (source, source) else none)

/-- The members of a set as ascending ranges that do not touch. -/
def toRanges : CharSet → Ranges
  | ranges rs => .unite rs.toList
  | alike n => .unite ((letterForms n).map fun m => (m, m))
  | union a b => .unite (a.toRanges.toList ++ b.toRanges.toList)
  | inter a b =>
      (gaps 0 (Ranges.unite
        (gaps 0 a.toRanges.toList ++ gaps 0 b.toRanges.toList)).toList).toArray
  | diff a b =>
      (gaps 0 (Ranges.unite (gaps 0 a.toRanges.toList ++ b.toRanges.toList)).toList).toArray
  | compl a => (gaps 0 a.toRanges.toList).toArray
  | anyCase a => closeUnder foldings a.toRanges
  | anyBasicCase a =>
      closeUnder ((List.range 26).map fun k => (0x41 + k, 0x61 + k)) a.toRanges

end CharSet

/-- The runs of bytes in which the code points from `first` to `last` are written with a leading
byte and `count` bytes of six bits. -/
def byteRuns (first last : Nat) : Nat → List (List (Nat × Nat))
  | 0 => [[(first, last)]]
  | count + 1 =>
      let unit := 1 <<< (6 * (count + 1))
      let a := first / unit
      let b := last / unit
      let inside (lo hi : Nat) := byteRuns lo hi count
      if a = b then (inside (first % unit) (last % unit)).map ((a, a) :: ·)
      else
        let headIsWhole := first % unit == 0
        let tailIsWhole := last % unit == unit - 1
        let a' := if headIsWhole then a else a + 1
        let b' := if tailIsWhole then b + 1 else b
        (if headIsWhole then [] else (inside (first % unit) (unit - 1)).map ((a, a) :: ·)) ++
          (if a' < b' then (inside 0 (unit - 1)).map ((a', b' - 1) :: ·) else []) ++
          (if tailIsWhole then [] else (inside 0 (last % unit)).map ((b, b) :: ·))

/-- The part of a range within bounds, if there is one. -/
def clip (lo hi : Nat) (range : Nat × Nat) : Option (Nat × Nat) :=
  let first := max lo range.1
  let last := min hi range.2
  if first ≤ last then some (first, last) else none

/-- The code points that are written with the given number of bytes after the first. -/
def encodedSpans : List (Nat × Nat × Nat) :=
  [(0, 0x7f, 0), (0x80, 0x7ff, 1), (0x800, 0xd7ff, 2), (0xe000, 0xffff, 2), (0x10000, 0x10ffff, 3)]

/-- The runs of bytes that the members of a set are written with. -/
def encodedRuns (rs : Ranges) : List (List (Nat × Nat)) :=
  encodedSpans.flatMap fun (lo, hi, count) =>
    (rs.toList.filterMap (clip lo hi)).flatMap fun (first, last) => byteRuns first last count

/-- The beginnings of a run of bytes, each as one number. -/
def beginnings (number : Nat) : List (Nat × Nat) → List Nat
  | [] => []
  | (first, last) :: rest =>
      let next := (number * 256 + first) * 256 + last + 1
      next :: beginnings next rest

/-- The number of different members of an ascending list. -/
def countDistinct : List Nat → Nat
  | a :: b :: rest => (if a = b then 0 else 1) + countDistinct (b :: rest)
  | [_] => 1
  | [] => 0

/-- The size of the automaton for one character of a set. -/
def setBytes (rs : Ranges) : Nat :=
  match rs.toList with
  | [] => 32
  | [(first, last)] =>
      if first = last then 32 * (Char.ofNat first).utf8Size
      else if last < 0x80 then 72
      else sharedBytes
  | ranges => if ranges.all (·.2 < 0x80) then 64 + 8 * ranges.length else sharedBytes
where
  /-- Equal beginnings are written once. -/
  sharedBytes :=
    let runs := encodedRuns rs
    64 + 4 * runs.length + 32 * countDistinct ((runs.flatMap (beginnings 0)).mergeSort)

/-- What is known of an expression when its size is estimated. -/
structure Footprint where
  bytes : Nat
  /-- As a part of a choice: the number of branches and their sizes together. -/
  branches : Nat := 1
  branchBytes : Nat := bytes
  /-- The members, if the expression matches exactly one character of a set. -/
  members? : Option Ranges := none
  acceptsEmpty : Bool
  onlyEmpty : Bool := false

namespace Footprint

def ofSet (rs : Ranges) : Footprint where
  bytes := setBytes rs
  members? := some rs
  acceptsEmpty := false

/-- A choice; branches that are all sets are one set. -/
def choose (a b : Footprint) : Footprint :=
  match a.members?, b.members? with
  | some x, some y => ofSet (.unite (x.toList ++ y.toList))
  | _, _ =>
      let branches := a.branches + b.branches
      let sum := a.branchBytes + b.branchBytes
      { bytes := sum + 64 + 4 * branches
        branches
        branchBytes := sum
        acceptsEmpty := a.acceptsEmpty || b.acceptsEmpty
        onlyEmpty := a.onlyEmpty && b.onlyEmpty }

/-- A repetition. What matches only the empty text is repeated at most once. -/
def repeated (e : Footprint) (min : Nat) (max : Option Nat) : Footprint :=
  let min := if e.onlyEmpty then Nat.min min 1 else min
  let max := if e.onlyEmpty then some (Nat.min (max.getD 1) 1) else max
  let copies := if min = 0 then 32 else min * e.bytes
  let bytes :=
    match min, max with
    | 0, none => e.bytes + if e.acceptsEmpty then 112 else 40
    | min, none => min * e.bytes + 40
    | 0, some 1 => e.bytes + 72
    | min, some max => if max ≤ min then copies else copies + 32 + (max - min) * (40 + e.bytes)
  { bytes
    acceptsEmpty := min = 0 || e.acceptsEmpty
    onlyEmpty := max == some 0 || e.onlyEmpty }

end Footprint

namespace Expr

/-- Estimates the size of an expression. -/
def footprint : Expr → Footprint
  | empty => { bytes := 32, acceptsEmpty := true, onlyEmpty := true }
  | set s => .ofSet s.toRanges
  | look _ => { bytes := 32, acceptsEmpty := true, onlyEmpty := true }
  | seq a b =>
      let x := a.footprint
      let y := b.footprint
      { bytes := x.bytes + y.bytes
        acceptsEmpty := x.acceptsEmpty && y.acceptsEmpty
        onlyEmpty := x.onlyEmpty && y.onlyEmpty }
  | alt a b => a.footprint.choose b.footprint
  | repeated e min max => e.footprint.repeated min max
  | capture e =>
      let x := e.footprint
      { bytes := x.bytes + 64, acceptsEmpty := x.acceptsEmpty, onlyEmpty := x.onlyEmpty }

/-- The size of the whole automaton, which may begin a match anywhere. -/
def size (e : Expr) : Nat := e.footprint.bytes + 208

/-- The largest automaton for an expression of the user. -/
def sizeLimit : Nat := 10 <<< 20

end Expr

end ArchiveSearch.Regex
