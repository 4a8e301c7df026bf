/-!
# The syntax of regular expressions

Expressions as they are written, before the flags that are in force say what they mean: literals,
classes in brackets with set operations, groups with flags, repetitions. The nesting of an
expression is limited; a run of items or alternatives counts as one level.
-/

namespace ArchiveSearch.Regex

/-- A character, and whether it was written as `\x` and two hexadecimal digits, which names a byte
where Unicode is off. -/
structure Literal where
  char : Char
  isByte : Bool := false

/-- The classes written with one letter. -/
inductive ShortClass where
  | digit
  | blank
  | word
deriving DecidableEq, Repr

/-- The classes written `[:name:]`. -/
inductive NamedClass where
  | alnum | alpha | ascii | blank | cntrl | digit | graph | lower | print | punct | space | upper
  | word | xdigit
deriving DecidableEq, Repr

/-- A property of characters, asked for by one name or by a name and a value. -/
inductive PropertyName where
  | alone (name : String)
  | withValue (name value : String)

/-- The operations on the two sides of a class in brackets. -/
inductive SetOperation where
  | intersection
  | difference
  | symmetricDifference
deriving DecidableEq, Repr

/-- What stands inside brackets. -/
inductive ClassSyntax where
  | nothing
  | literal (l : Literal)
  | span (first last : Literal)
  | named (name : NamedClass) (negated : Bool)
  | short (name : ShortClass) (negated : Bool)
  | property (name : PropertyName) (negated : Bool)
  | bracket (body : ClassSyntax) (negated : Bool)
  | union (a b : ClassSyntax)
  | operation (op : SetOperation) (a b : ClassSyntax)

/-- A change of flags: each letter switches a flag on or off. -/
structure FlagChange where
  on : List Char := []
  off : List Char := []
deriving DecidableEq, Repr

/-- What the change says about a flag. -/
def FlagChange.get? (change : FlagChange) (flag : Char) : Option Bool :=
  if change.on.contains flag then some true
  else if change.off.contains flag then some false
  else none

/-- The tests of positions as they are written. -/
inductive Anchor where
  | caret
  | dollar
  | startText
  | endText
  | boundary
  | notBoundary
  | startWord
  | endWord
  | startWordHalf
  | endWordHalf
deriving DecidableEq, Repr

/-- An expression as it is written. -/
inductive Syntax where
  | nothing
  | literal (l : Literal)
  | dot
  | anchor (a : Anchor)
  | short (name : ShortClass) (negated : Bool)
  | property (name : PropertyName) (negated : Bool)
  | bracket (body : ClassSyntax) (negated : Bool)
  | flags (change : FlagChange)
  | group (captures : Bool) (change : FlagChange) (body : Syntax)
  | repeated (body : Syntax) (min : Nat) (max : Option Nat)
  | seq (a b : Syntax)
  | alt (a b : Syntax)

namespace ClassSyntax

/-- Joins items in their order. -/
def ofItems : List ClassSyntax → ClassSyntax
  | [] => nothing
  | [item] => item
  | item :: rest => union item (ofItems rest)

/-- The nesting of a class. The rest of a run of items adds no level to that of the run. -/
def depth (inRun : Bool) : ClassSyntax → Nat
  | bracket body _ => body.depth false + 1
  | union a b => max (a.depth false) (b.depth true) + if inRun then 0 else 1
  | operation _ a b => max (a.depth false) (b.depth false) + 1
  | _ => 0

end ClassSyntax

namespace Syntax

/-- Joins items in their order. -/
def ofItems : List Syntax → Syntax
  | [] => nothing
  | [item] => item
  | item :: rest => seq item (ofItems rest)

/-- Joins alternatives in their order. -/
def ofBranches : List Syntax → Syntax
  | [] => nothing
  | [branch] => branch
  | branch :: rest => alt branch (ofBranches rest)

/-- The nesting of an expression. The rest of a run of items or alternatives adds no level to that
of the run. -/
def depth (inSeq inAlt : Bool) : Syntax → Nat
  | bracket body _ => body.depth false + 1
  | group _ _ body => body.depth false false + 1
  | repeated body _ _ => body.depth false false + 1
  | seq a b => max (a.depth false false) (b.depth true false) + if inSeq then 0 else 1
  | alt a b => max (a.depth false false) (b.depth false true) + if inAlt then 0 else 1
  | _ => 0

/-- The deepest nesting that is accepted. -/
def depthLimit : Nat := 250

end Syntax

end ArchiveSearch.Regex
