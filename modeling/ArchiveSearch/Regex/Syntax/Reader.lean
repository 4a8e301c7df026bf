import ArchiveSearch.Regex.Syntax.Bracket
import ArchiveSearch.Text.Word

/-!
# Reading regular expressions

A text is read from left to right with the groups that are still open on a stack. A group keeps
its finished alternatives and the items of the current one. The flag `x` makes an expression
verbose up to the end of the group that it is set in.
-/

namespace ArchiveSearch.Regex

open Text

/-- A group that is still open, its finished alternatives and current items in reverse. -/
structure OpenGroup where
  captures : Bool := false
  change : FlagChange := {}
  verboseOutside : Bool := false
  branches : List Syntax := []
  items : List Syntax := []

namespace OpenGroup

def push (g : OpenGroup) (item : Syntax) : OpenGroup :=
  { g with items := item :: g.items }

/-- Ends the current alternative. -/
def nextBranch (g : OpenGroup) : OpenGroup :=
  { g with branches := Syntax.ofItems g.items.reverse :: g.branches, items := [] }

/-- What the group holds. -/
def body (g : OpenGroup) : Syntax :=
  Syntax.ofBranches g.nextBranch.branches.reverse

/-- Repeats the last item. There must be one, and it must not be a change of flags. -/
def repeatLast? (g : OpenGroup) (min : Nat) (max : Option Nat) : Option OpenGroup :=
  match g.items with
  | [] => none
  | .flags _ :: _ => none
  | item :: rest => some { g with items := .repeated item min max :: rest }

end OpenGroup

/-- How far a text has been read: the innermost group, those around it, and the names of groups. -/
structure Reading where
  verbose : Bool := false
  names : List String := []
  group : OpenGroup := {}
  outer : List OpenGroup := []

namespace Reading

def push (r : Reading) (item : Syntax) : Reading :=
  { r with group := r.group.push item }

/-- Opens a group. -/
def openGroup (r : Reading) (captures : Bool) (change : FlagChange) : Reading :=
  { r with
    verbose := (change.get? 'x').getD r.verbose
    group := { captures, change, verboseOutside := r.verbose }
    outer := r.group :: r.outer }

/-- Opens a group with a name that no other group has. -/
def openNamed? (r : Reading) (name : String) : Option Reading :=
  if r.names.contains name then none
  else some { r.openGroup true {} with names := name :: r.names }

/-- Closes the innermost group, if there is one. -/
def closeGroup? (r : Reading) : Option Reading :=
  match r.outer with
  | [] => none
  | parent :: outer =>
      some { r with
        verbose := r.group.verboseOutside
        group := parent.push (.group r.group.captures r.group.change r.group.body)
        outer }

/-- Changes flags up to the end of the innermost group. -/
def setFlags (r : Reading) (change : FlagChange) : Reading :=
  { r.push (.flags change) with verbose := (change.get? 'x').getD r.verbose }

def repeatLast? (r : Reading) (min : Nat) (max : Option Nat) : Option Reading :=
  (r.group.repeatLast? min max).map fun group => { r with group }

/-- The expression, if all groups are closed. -/
def finish? (r : Reading) : Option Syntax :=
  if r.outer.isEmpty then some r.group.body else none

end Reading

/-- Reads a number of repetitions, which must fit 32 bits; blanks around it are skipped. -/
def readCount? (verbose : Bool) (text : List Char) : Option (Nat × List Char) :=
  let read := collect verbose Char.isDigit (text.dropWhile isBlank)
  let n := Nat.ofDigitChars 10 read.1 0
  if read.1.isEmpty || 1 <<< 32 ≤ n then none else some (n, read.2.dropWhile isBlank)

theorem readCount?_length {verbose : Bool} {text after : List Char} {n : Nat}
    (h : readCount? verbose text = some (n, after)) : after.length ≤ text.length := by
  have hbefore := (List.dropWhile_suffix (l := text) isBlank).length_le
  have hcollect := collect_length verbose Char.isDigit (text.dropWhile isBlank)
  have hafter := (List.dropWhile_suffix
    (l := (collect verbose Char.isDigit (text.dropWhile isBlank)).2) isBlank).length_le
  simp only [readCount?] at h
  split at h
  next => simp at h
  next =>
    simp only [Option.some.injEq, Prod.mk.injEq] at h
    obtain ⟨-, rfl⟩ := h
    omega

/-- Drops the mark of a reluctant repetition, which changes nothing about whether a text
matches. -/
def dropReluctant : List Char → List Char
  | '?' :: rest => rest
  | text => text

theorem dropReluctant_length (text : List Char) : (dropReluctant text).length ≤ text.length := by
  unfold dropReluctant
  split <;> simp

/-- Reads the bounds of a repetition after the opening brace. -/
def readBounds? (verbose : Bool) (text : List Char) : Option ((Nat × Option Nat) × List Char) := do
  let (min, rest) ← readCount? verbose (skip verbose text)
  match rest with
  | '\x7d' :: after => some ((min, some min), dropReluctant (skip verbose after))
  | ',' :: rest =>
      match skip verbose rest with
      | '\x7d' :: after => some ((min, none), dropReluctant (skip verbose after))
      | rest => do
          let (max, rest) ← readCount? verbose rest
          match rest with
          | '\x7d' :: after =>
              if min ≤ max then some ((min, some max), dropReluctant (skip verbose after)) else none
          | _ => none
  | _ => none

theorem readBounds?_length {verbose : Bool} {text after : List Char} {bounds : Nat × Option Nat}
    (h : readBounds? verbose text = some (bounds, after)) : after.length ≤ text.length := by
  simp only [readBounds?, bind, Option.bind_eq_some_iff] at h
  obtain ⟨⟨min, rest⟩, hmin, h⟩ := h
  have hskip := skip_length verbose text
  have hrest := readCount?_length hmin
  simp only at h
  split at h
  next after' =>
    have := skip_length verbose after'
    have := dropReluctant_length (skip verbose after')
    simp only [Option.some.injEq, Prod.mk.injEq] at h
    obtain ⟨-, rfl⟩ := h
    simp only [List.length_cons] at *
    omega
  next rest =>
    have hcomma := skip_length verbose rest
    split at h
    next after' hclose =>
      rw [hclose] at hcomma
      have := skip_length verbose after'
      have := dropReluctant_length (skip verbose after')
      simp only [Option.some.injEq, Prod.mk.injEq] at h
      obtain ⟨-, rfl⟩ := h
      simp only [List.length_cons] at *
      omega
    next =>
      simp only [Option.bind_eq_some_iff] at h
      obtain ⟨⟨max, rest'⟩, hmax, h⟩ := h
      have := readCount?_length hmax
      simp only at h
      split at h
      next after' =>
        split at h
        next =>
          have := skip_length verbose after'
          have := dropReluctant_length (skip verbose after')
          simp only [Option.some.injEq, Prod.mk.injEq] at h
          obtain ⟨-, rfl⟩ := h
          simp only [List.length_cons] at *
          omega
        next => simp at h
      next => simp at h
  next => simp at h

/-- Whether a name may be given to a group: a letter or an underscore, then also digits, points
and brackets. -/
def isGroupName : List Char → Bool
  | [] => false
  | c :: rest =>
      (c == '_' || alphabeticRanges.holds c.toNat) &&
        rest.all fun c =>
          c == '_' || c == '.' || c == '[' || c == ']' || alphanumericRanges.holds c.toNat

/-- Reads the name of a group and the angle bracket behind it. -/
def readGroupName? (text : List Char) : Option (String × List Char) :=
  match text.dropWhile (· != '>') with
  | _ :: after =>
      let name := text.takeWhile (· != '>')
      if isGroupName name then some (String.ofList name, after) else none
  | [] => none

theorem readGroupName?_length {text after : List Char} {name : String}
    (h : readGroupName? text = some (name, after)) : after.length < text.length := by
  have hdrop := (List.dropWhile_suffix (l := text) (· != '>')).length_le
  unfold readGroupName? at h
  split at h
  next c after' hrest =>
    rw [hrest] at hdrop
    simp only at h
    split at h
    next =>
      simp only [Option.some.injEq, Prod.mk.injEq] at h
      obtain ⟨-, rfl⟩ := h
      exact hdrop
    next => simp at h
  next => simp at h

/-- Whether letters and dashes change flags: known letters, nothing twice, no dash at the end. -/
def isFlagChange (letters : List Char) : Bool :=
  letters.all (['i', 'm', 's', 'U', 'u', 'R', 'x', '-'].contains ·) && decide letters.Nodup &&
    letters.getLast? != some '-'

/-- Reads a change of flags and the character behind it, a colon or a closing parenthesis. -/
def readFlags? (text : List Char) : Option (FlagChange × Bool × List Char) :=
  let isEnd (c : Char) : Bool := c == ':' || c == ')'
  let letters := text.takeWhile (!isEnd ·)
  match text.dropWhile (!isEnd ·) with
  | c :: after =>
      if isFlagChange letters then
        some (⟨letters.takeWhile (· != '-'), (letters.dropWhile (· != '-')).drop 1⟩, c == ':', after)
      else none
  | [] => none

theorem readFlags?_length {text after : List Char} {change : FlagChange} {opens : Bool}
    (h : readFlags? text = some (change, opens, after)) : after.length < text.length := by
  have hdrop := (List.dropWhile_suffix (l := text) (fun c => !(c == ':' || c == ')'))).length_le
  simp only [readFlags?] at h
  split at h
  next c after' hrest =>
    rw [hrest] at hdrop
    split at h
    next =>
      simp only [Option.some.injEq, Prod.mk.injEq] at h
      obtain ⟨-, -, rfl⟩ := h
      exact hdrop
    next => simp at h
  next => simp at h

/-- Reads what follows an opening parenthesis: a group with or without a name, a change of flags
for a group or for what follows. There is no look-around. -/
def readOpenGroup? (r : Reading) (text : List Char) : Option (Reading × List Char) :=
  match skip r.verbose text with
  | '?' :: '=' :: _ => none
  | '?' :: '!' :: _ => none
  | '?' :: '<' :: '=' :: _ => none
  | '?' :: '<' :: '!' :: _ => none
  | '?' :: 'P' :: '<' :: rest => do
      let (name, after) ← readGroupName? rest
      return (← r.openNamed? name, after)
  | '?' :: '<' :: rest => do
      let (name, after) ← readGroupName? rest
      return (← r.openNamed? name, after)
  | '?' :: rest => do
      let (change, opens, after) ← readFlags? rest
      if opens then some (r.openGroup false change, after)
      else if change = {} then none
      else some (r.setFlags change, after)
  | rest => some (r.openGroup true {}, rest)

theorem readOpenGroup?_length {r next : Reading} {text after : List Char}
    (h : readOpenGroup? r text = some (next, after)) : after.length ≤ text.length := by
  have hskip := skip_length r.verbose text
  have hname (pre : List Char) {rest : List Char}
      (hrest : skip r.verbose text = pre ++ rest)
      (hread : (do
        let (name, after) ← readGroupName? rest
        return (← r.openNamed? name, after)) = some (next, after)) :
      after.length ≤ text.length := by
    simp only [bind, Option.bind_eq_some_iff] at hread
    obtain ⟨⟨name, after'⟩, hgroup, r', -, heq⟩ := hread
    have := readGroupName?_length hgroup
    simp only [pure, Option.some.injEq, Prod.mk.injEq] at heq
    obtain ⟨-, rfl⟩ := heq
    rw [hrest, List.length_append] at hskip
    omega
  unfold readOpenGroup? at h
  split at h
  next => simp at h
  next => simp at h
  next => simp at h
  next => simp at h
  next rest hrest => exact hname ['?', 'P', '<'] hrest h
  next rest _ _ hrest => exact hname ['?', '<'] hrest h
  next rest _ _ _ _ _ _ hrest =>
    simp only [bind, Option.bind_eq_some_iff] at h
    obtain ⟨⟨change, opens, after'⟩, hflags, h⟩ := h
    have := readFlags?_length hflags
    rw [hrest] at hskip
    simp only [List.length_cons] at hskip
    simp only at h
    split at h
    next =>
      simp only [Option.some.injEq, Prod.mk.injEq] at h
      obtain ⟨-, rfl⟩ := h
      omega
    next =>
      split at h
      next => simp at h
      next =>
        simp only [Option.some.injEq, Prod.mk.injEq] at h
        obtain ⟨-, rfl⟩ := h
        omega
  next =>
    simp only [Option.some.injEq, Prod.mk.injEq] at h
    obtain ⟨-, rfl⟩ := h
    exact hskip

/-- The item that an escape stands for outside brackets. -/
def Primitive.item : Primitive → Syntax
  | literal l => .literal l
  | anchor a => .anchor a
  | short name negated => .short name negated
  | property name negated => .property name negated

/-- One item, operator or parenthesis. -/
def Reading.step? (r : Reading) : List Char → Option (Reading × List Char)
  | [] => none
  | c :: rest =>
      match c with
      | '(' => readOpenGroup? r rest
      | ')' => (r.closeGroup?).map fun r => (r, rest)
      | '|' => some ({ r with group := r.group.nextBranch }, rest)
      | '[' => (readBracket? r.verbose rest).map fun (item, after) => (r.push item, after)
      | '?' => (r.repeatLast? 0 (some 1)).map fun r => (r, dropReluctant rest)
      | '*' => (r.repeatLast? 0 none).map fun r => (r, dropReluctant rest)
      | '+' => (r.repeatLast? 1 none).map fun r => (r, dropReluctant rest)
      | '\x7b' => do
          let (bounds, after) ← readBounds? r.verbose rest
          let r ← r.repeatLast? bounds.1 bounds.2
          return (r, after)
      | '\\' => (readEscape? r.verbose rest).map fun (p, after) => (r.push p.item, after)
      | '.' => some (r.push .dot, rest)
      | '^' => some (r.push (.anchor .caret), rest)
      | '$' => some (r.push (.anchor .dollar), rest)
      | c => some (r.push (.literal ⟨c, false⟩), rest)

theorem Reading.step?_length {r next : Reading} {text after : List Char}
    (h : r.step? text = some (next, after)) : after.length < text.length := by
  unfold Reading.step? at h
  split at h
  next => simp at h
  next c rest =>
    simp only [List.length_cons]
    have hreluctant := dropReluctant_length rest
    split at h
    next => exact Nat.lt_succ_of_le (readOpenGroup?_length h)
    next => grind [Option.map_eq_some_iff]
    next => grind
    next => grind [Option.map_eq_some_iff, → readBracket?_length]
    next => grind [Option.map_eq_some_iff]
    next => grind [Option.map_eq_some_iff]
    next => grind [Option.map_eq_some_iff]
    next =>
      simp only [bind, Option.bind_eq_some_iff] at h
      obtain ⟨⟨bounds, after'⟩, hbounds, r', -, heq⟩ := h
      have := readBounds?_length hbounds
      simp only [pure, Option.some.injEq, Prod.mk.injEq] at heq
      obtain ⟨-, rfl⟩ := heq
      exact Nat.lt_succ_of_le this
    next => grind [Option.map_eq_some_iff, → readEscape?_length]
    all_goals grind

/-- Reads the rest of an expression. -/
def Reading.run? (r : Reading) (text : List Char) : Option Syntax :=
  have := skip_length r.verbose text
  if (skip r.verbose text).isEmpty then r.finish?
  else
    match h : r.step? (skip r.verbose text) with
    | some (next, after) =>
        have := Reading.step?_length h
        next.run? after
    | none => none
termination_by text.length

/-- Reads an expression whose nesting is within the limit. -/
def Syntax.read? (text : String) : Option Syntax := do
  let s ← Reading.run? {} text.toList
  guard (s.depth false false ≤ depthLimit)
  return s

end ArchiveSearch.Regex
