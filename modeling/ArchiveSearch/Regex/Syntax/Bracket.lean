import ArchiveSearch.Regex.Syntax.Escape

/-!
# Classes in brackets

Brackets hold characters, spans, named classes and further brackets. The operators `&&`, `--` and
`~~` bind less tightly than writing items side by side and group to the left. Directly after the
opening, dashes and then one closing bracket stand for themselves.
-/

namespace ArchiveSearch.Regex

/-- A bracket that is still open: the items since its last operator in reverse, and that operator
with its left side. -/
structure OpenBracket where
  negated : Bool
  items : List ClassSyntax := []
  pending : Option (SetOperation × ClassSyntax) := none

namespace OpenBracket

def push (b : OpenBracket) (item : ClassSyntax) : OpenBracket :=
  { b with items := item :: b.items }

/-- What the bracket holds so far. -/
def body (b : OpenBracket) : ClassSyntax :=
  let right := ClassSyntax.ofItems b.items.reverse
  match b.pending with
  | some (op, left) => .operation op left right
  | none => right

/-- Makes what the bracket holds so far the left side of an operator. -/
def operate (b : OpenBracket) (op : SetOperation) : OpenBracket :=
  ⟨b.negated, [], some (op, b.body)⟩

end OpenBracket

/-- The named classes. -/
def NamedClass.ofName? (name : String) : Option NamedClass :=
  match name with
  | "alnum" => some .alnum
  | "alpha" => some .alpha
  | "ascii" => some .ascii
  | "blank" => some .blank
  | "cntrl" => some .cntrl
  | "digit" => some .digit
  | "graph" => some .graph
  | "lower" => some .lower
  | "print" => some .print
  | "punct" => some .punct
  | "space" => some .space
  | "upper" => some .upper
  | "word" => some .word
  | "xdigit" => some .xdigit
  | _ => none

/-- Reads an optional circumflex. -/
def readCaret : List Char → Bool × List Char
  | '^' :: rest => (true, rest)
  | text => (false, text)

theorem readCaret_length (text : List Char) : (readCaret text).2.length ≤ text.length := by
  unfold readCaret
  split <;> simp

/-- Reads a named class after its opening bracket. -/
def readNamed? : List Char → Option (ClassSyntax × List Char)
  | ':' :: text =>
      let caret := readCaret text
      match caret.2.dropWhile (· != ':') with
      | ':' :: ']' :: after =>
          (NamedClass.ofName? (String.ofList (caret.2.takeWhile (· != ':')))).map fun name =>
            (.named name caret.1, after)
      | _ => none
  | _ => none

theorem readNamed?_length {text after : List Char} {item : ClassSyntax}
    (h : readNamed? text = some (item, after)) : after.length ≤ text.length := by
  unfold readNamed? at h
  split at h
  next text =>
    have hcaret := readCaret_length text
    have hdrop := (List.dropWhile_suffix (l := (readCaret text).2) (· != ':')).length_le
    simp only at h
    split at h
    next after' hrest =>
      rw [hrest] at hdrop
      obtain ⟨name, -, heq⟩ := Option.map_eq_some_iff.mp h
      simp only [Prod.mk.injEq] at heq
      obtain ⟨-, rfl⟩ := heq
      simp only [List.length_cons] at *
      omega
    next => simp at h
  next => simp at h

/-- Reads the dashes that stand for themselves after an opening. -/
def readDashes (verbose : Bool) (b : OpenBracket) : List Char → OpenBracket × List Char
  | [] => (b, [])
  | c :: rest =>
      if c == '-' then
        have := skip_length verbose rest
        readDashes verbose (b.push (.literal ⟨'-', false⟩)) (skip verbose rest)
      else (b, c :: rest)
termination_by text => text.length

theorem readDashes_length (verbose : Bool) (b : OpenBracket) (text : List Char) :
    (readDashes verbose b text).2.length ≤ text.length := by
  fun_induction readDashes verbose b text with
  | case1 => exact Nat.le_refl _
  | case2 b c rest hc this ih =>
      simp only [List.length_cons]
      omega
  | case3 => exact Nat.le_refl _

/-- Reads what stands directly after an opening bracket. -/
def readOpening (verbose : Bool) (text : List Char) : OpenBracket × List Char :=
  let caret := readCaret (skip verbose text)
  let dashes := readDashes verbose { negated := caret.1 }
    (if caret.1 then skip verbose caret.2 else caret.2)
  match dashes.1.items, dashes.2 with
  | [], ']' :: rest => (dashes.1.push (.literal ⟨']', false⟩), skip verbose rest)
  | _, rest => (dashes.1, rest)

theorem readOpening_length (verbose : Bool) (text : List Char) :
    (readOpening verbose text).2.length ≤ text.length := by
  have hskip := skip_length verbose text
  have hcaret := readCaret_length (skip verbose text)
  have hagain := skip_length verbose (readCaret (skip verbose text)).2
  have hdashes := readDashes_length verbose { negated := (readCaret (skip verbose text)).1 }
    (if (readCaret (skip verbose text)).1 then skip verbose (readCaret (skip verbose text)).2
      else (readCaret (skip verbose text)).2)
  have hbranch : (if (readCaret (skip verbose text)).1
      then skip verbose (readCaret (skip verbose text)).2
      else (readCaret (skip verbose text)).2).length ≤ text.length := by
    split <;> omega
  simp only [readOpening]
  split
  next rest _ hrest =>
    rw [hrest] at hdashes
    have := skip_length verbose rest
    simp only [List.length_cons] at *
    omega
  next => exact Nat.le_trans hdashes hbranch

/-- Reads one item, an escape or a character that stands for itself. -/
def readClassItem? (verbose : Bool) : List Char → Option (Primitive × List Char)
  | [] => none
  | c :: rest => if c == '\\' then readEscape? verbose rest else some (.literal ⟨c, false⟩, rest)

theorem readClassItem?_length {verbose : Bool} {text after : List Char} {p : Primitive}
    (h : readClassItem? verbose text = some (p, after)) : after.length < text.length := by
  unfold readClassItem? at h
  split at h
  next => simp at h
  next c rest =>
    split at h
    next => exact Nat.lt_succ_of_lt (readEscape?_length h)
    next =>
      simp only [Option.some.injEq, Prod.mk.injEq] at h
      obtain ⟨-, rfl⟩ := h
      exact Nat.lt_succ_self _

/-- An item of a class; tests of positions are none. -/
def Primitive.classItem? : Primitive → Option ClassSyntax
  | literal l => some (.literal l)
  | short name negated => some (.short name negated)
  | property name negated => some (.property name negated)
  | anchor _ => none

/-- A span, which must not be empty and joins two characters. -/
def spanOf? : Primitive → Primitive → Option ClassSyntax
  | .literal first, .literal last => if first.char ≤ last.char then some (.span first last) else none
  | _, _ => none

/-- The character behind a dash that tells whether it makes a span. In verbose expressions blanks
and the sign that opens a comment are passed over, but not what the comment says. -/
def spanMark? (verbose : Bool) (behind : List Char) : Option Char :=
  if verbose then
    match behind.dropWhile Text.isBlank with
    | '#' :: comment => (comment.dropWhile Text.isBlank).head?
    | text => text.head?
  else behind.head?

/-- Reads an item or a span. A dash before a closing bracket or another dash makes no span. -/
def readSpan? (verbose : Bool) (text : List Char) : Option (ClassSyntax × List Char) := do
  let (first, rest) ← readClassItem? verbose text
  match skip verbose rest with
  | [] => none
  | '-' :: behind =>
      if spanMark? verbose behind == some ']' || spanMark? verbose behind == some '-' then
        (first.classItem?).map fun item => (item, '-' :: behind)
      else do
        let (last, after) ← readClassItem? verbose (skip verbose behind)
        let item ← spanOf? first last
        return (item, after)
  | after => (first.classItem?).map fun item => (item, after)

theorem readSpan?_length {verbose : Bool} {text after : List Char} {item : ClassSyntax}
    (h : readSpan? verbose text = some (item, after)) : after.length < text.length := by
  simp only [readSpan?, bind, Option.bind_eq_some_iff] at h
  obtain ⟨⟨first, rest⟩, hfirst, h⟩ := h
  have hitem := readClassItem?_length hfirst
  have hskip := skip_length verbose rest
  simp only at h
  split at h
  next => simp at h
  next behind hbehind =>
    rw [hbehind] at hskip
    have hagain := skip_length verbose behind
    split at h
    next =>
      obtain ⟨x, -, heq⟩ := Option.map_eq_some_iff.mp h
      simp only [Prod.mk.injEq] at heq
      obtain ⟨-, rfl⟩ := heq
      omega
    next =>
      simp only [Option.bind_eq_some_iff] at h
      obtain ⟨⟨last, after'⟩, hlast, x, -, heq⟩ := h
      have := readClassItem?_length hlast
      simp only [pure, Option.some.injEq, Prod.mk.injEq] at heq
      obtain ⟨-, rfl⟩ := heq
      simp only [List.length_cons] at *
      omega
  next =>
    obtain ⟨x, -, heq⟩ := Option.map_eq_some_iff.mp h
    simp only [Prod.mk.injEq] at heq
    obtain ⟨-, rfl⟩ := heq
    omega

/-- Reads the rest of a bracket, given the brackets around it, innermost first. -/
def readBrackets? (verbose : Bool) (b : OpenBracket) (outer : List OpenBracket)
    (text : List Char) : Option (Syntax × List Char) :=
  have := skip_length verbose text
  match _htext : skip verbose text with
  | [] => none
  | '[' :: rest =>
      match hnamed : readNamed? rest with
      | some (item, after) =>
          have := readNamed?_length hnamed
          readBrackets? verbose (b.push item) outer after
      | none =>
          have := readOpening_length verbose rest
          let opening := readOpening verbose rest
          readBrackets? verbose opening.1 (b :: outer) opening.2
  | ']' :: rest =>
      match outer with
      | [] => some (.bracket b.body b.negated, rest)
      | parent :: outer =>
          readBrackets? verbose (parent.push (.bracket b.body b.negated)) outer rest
  | '&' :: '&' :: rest => readBrackets? verbose (b.operate .intersection) outer rest
  | '-' :: '-' :: rest => readBrackets? verbose (b.operate .difference) outer rest
  | '~' :: '~' :: rest => readBrackets? verbose (b.operate .symmetricDifference) outer rest
  | c :: rest =>
      match hspan : readSpan? verbose (c :: rest) with
      | some (item, after) =>
          have := readSpan?_length hspan
          readBrackets? verbose (b.push item) outer after
      | none => none
termination_by text.length
decreasing_by all_goals simp_all only [List.length_cons]; omega

/-- Reads a class after its opening bracket. -/
def readBracket? (verbose : Bool) (text : List Char) : Option (Syntax × List Char) :=
  let opening := readOpening verbose text
  readBrackets? verbose opening.1 [] opening.2

theorem readBrackets?_length {verbose : Bool} {b : OpenBracket} {outer : List OpenBracket}
    {text after : List Char} {s : Syntax}
    (h : readBrackets? verbose b outer text = some (s, after)) : after.length < text.length := by
  fun_induction readBrackets? verbose b outer text <;> grind

theorem readBracket?_length {verbose : Bool} {text after : List Char} {s : Syntax}
    (h : readBracket? verbose text = some (s, after)) : after.length < text.length :=
  Nat.lt_of_lt_of_le (readBrackets?_length h) (readOpening_length verbose text)

end ArchiveSearch.Regex
