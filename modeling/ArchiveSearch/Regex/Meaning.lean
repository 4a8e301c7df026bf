import ArchiveSearch.Regex.Expr
import ArchiveSearch.Regex.Property
import ArchiveSearch.Regex.Syntax

/-!
# The meaning of the syntax

Flags are carried through an expression from left to right, also across alternatives, up to the
end of the group they were set in. Where Unicode is off, an expression could match a part of an
encoded character; whatever could is refused, which leaves sets of basic characters.
-/

namespace ArchiveSearch.Regex

/-- The flags in force. -/
structure Flags where
  anyCase : Bool := false
  multiLine : Bool := false
  dotAll : Bool := false
  anyLineEnd : Bool := false
  unicode : Bool := true
deriving DecidableEq, Repr

namespace Flags

/-- The flags after a change. -/
def apply (f : Flags) (change : FlagChange) : Flags where
  anyCase := (change.get? 'i').getD f.anyCase
  multiLine := (change.get? 'm').getD f.multiLine
  dotAll := (change.get? 's').getD f.dotAll
  anyLineEnd := (change.get? 'R').getD f.anyLineEnd
  unicode := (change.get? 'u').getD f.unicode

/-- The alphabet of word boundaries. -/
def alphabet (f : Flags) : Alphabet := if f.unicode then .unicode else .basic

/-- Closes a set under case where case is ignored. -/
def close (f : Flags) (s : CharSet) : CharSet :=
  if !f.anyCase then s
  else if f.unicode then .anyCase s
  else .anyBasicCase s

/-- The complement of a set if it is asked for. Without Unicode it would hold bytes that are no
characters. -/
def negate? (f : Flags) (negated : Bool) (s : CharSet) : Option CharSet :=
  if !negated then some s
  else if f.unicode then some (.compl s)
  else none

/-- Whether a character may stand in an expression for itself: without Unicode, bytes beyond the
basic characters may not. -/
def admitsLiteral (f : Flags) (l : Literal) : Bool :=
  f.unicode || !l.isByte || l.char.toNat < 128

/-- Whether a character may stand in a class. -/
def admitsMember (f : Flags) (l : Literal) : Bool :=
  f.unicode || l.char.toNat < 128

end Flags

/-- The members of the classes written with one letter. -/
def ShortClass.members (unicode : Bool) : ShortClass → CharSet
  | digit => if unicode then .digits else .basicDigits
  | blank => if unicode then .blanks else .basicBlanks
  | word => if unicode then .words else .basicWords

/-- The members of the named classes, basic characters all. -/
def NamedClass.members : NamedClass → CharSet
  | alnum => .ranges #[(0x30, 0x39), (0x41, 0x5a), (0x61, 0x7a)]
  | alpha => .ranges #[(0x41, 0x5a), (0x61, 0x7a)]
  | ascii => .ranges #[(0, 0x7f)]
  | blank => .ranges #[(0x9, 0x9), (0x20, 0x20)]
  | cntrl => .ranges #[(0, 0x1f), (0x7f, 0x7f)]
  | digit => .basicDigits
  | graph => .ranges #[(0x21, 0x7e)]
  | lower => .ranges #[(0x61, 0x7a)]
  | print => .ranges #[(0x20, 0x7e)]
  | punct => .ranges #[(0x21, 0x2f), (0x3a, 0x40), (0x5b, 0x60), (0x7b, 0x7e)]
  | space => .basicBlanks
  | upper => .ranges #[(0x41, 0x5a)]
  | word => .basicWords
  | xdigit => .ranges #[(0x30, 0x39), (0x41, 0x46), (0x61, 0x66)]

def SetOperation.apply : SetOperation → CharSet → CharSet → CharSet
  | intersection, a, b => .inter a b
  | difference, a, b => .diff a b
  | symmetricDifference, a, b => .symmetricDiff a b

/-- The set that a class stands for. -/
def ClassSyntax.meaning? (f : Flags) : ClassSyntax → Option CharSet
  | nothing => some .empty
  | literal l => if f.admitsMember l then some (.single l.char) else none
  | span first last =>
      if f.admitsMember first && f.admitsMember last then some (.span first.char last.char)
      else none
  | named name negated => f.negate? negated (f.close name.members)
  | short name negated => f.negate? negated (name.members f.unicode)
  | property name negated =>
      if f.unicode then (name.meaning?).bind fun s => f.negate? negated (f.close s) else none
  | bracket body negated => (body.meaning? f).bind fun s => f.negate? negated (f.close s)
  | union a b => do return .union (← a.meaning? f) (← b.meaning? f)
  | operation op a b => do return op.apply (f.close (← a.meaning? f)) (f.close (← b.meaning? f))

/-- The test that an anchor stands for. -/
def Anchor.meaning (f : Flags) : Anchor → Look
  | caret =>
      if !f.multiLine then .startText else if f.anyLineEnd then .startAnyLine else .startLine
  | dollar => if !f.multiLine then .endText else if f.anyLineEnd then .endAnyLine else .endLine
  | startText => .startText
  | endText => .endText
  | boundary => .boundary f.alphabet
  | notBoundary => .notBoundary f.alphabet
  | startWord => .startWord f.alphabet
  | endWord => .endWord f.alphabet
  | startWordHalf => .startWordHalf f.alphabet
  | endWordHalf => .endWordHalf f.alphabet

/-- The set that a literal stands for. -/
def Literal.meaning? (f : Flags) (l : Literal) : Option CharSet :=
  if !f.admitsLiteral l then none
  else if !f.anyCase then some (.single l.char)
  else if f.unicode then some (.alike l.char.toNat)
  else some (.anyBasicCase (.single l.char))

/-- What the point stands for: any character but the ends of lines. -/
def Flags.dot? (f : Flags) : Option CharSet :=
  if !f.unicode then none
  else if f.dotAll then some .full
  else if f.anyLineEnd then some (.compl (.ranges #[(0xa, 0xa), (0xd, 0xd)]))
  else some (.compl (.single '\n'))

/-- The expression that a text means under the given flags, and the flags behind it. -/
def Syntax.meaning? (f : Flags) : Syntax → Option (Expr × Flags)
  | nothing => some (.empty, f)
  | literal l => (l.meaning? f).map fun s => (.set s, f)
  | dot => f.dot?.map fun s => (.set s, f)
  | anchor a => some (.look (a.meaning f), f)
  | short name negated =>
      (f.negate? negated (name.members f.unicode)).map fun s => (.set s, f)
  | property name negated =>
      ((ClassSyntax.property name negated).meaning? f).map fun s => (.set s, f)
  | bracket body negated =>
      ((ClassSyntax.bracket body negated).meaning? f).map fun s => (.set s, f)
  | flags change => some (.empty, f.apply change)
  | group captures change body => do
      let (e, _) ← body.meaning? (f.apply change)
      return (if captures then .capture e else e, f)
  | repeated body min max => do
      let (e, f) ← body.meaning? f
      return (.repeated e min max, f)
  | seq a b => do
      let (a, f) ← a.meaning? f
      let (b, f) ← b.meaning? f
      return (.seq a b, f)
  | alt a b => do
      let (a, f) ← a.meaning? f
      let (b, f) ← b.meaning? f
      return (.alt a b, f)

end ArchiveSearch.Regex
