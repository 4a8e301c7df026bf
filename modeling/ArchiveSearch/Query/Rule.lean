import ArchiveSearch.Query.DateRange
import ArchiveSearch.Query.Pattern
import ArchiveSearch.Query.Selection

/-!
# Terms and rules

A term tests one field of a record and is asked for or ruled out. The terms of one field together
are its rule. A table of rules holds at most one rule for each field, and none without terms.
-/

namespace ArchiveSearch.Query

/-- A test of a field: a pattern for a text, a range for a date, nothing more for a flag. -/
inductive Test where
  | text (field : TextField) (pattern : Pattern)
  | date (field : DateField) (range : DateRange)
  | flag (field : FlagField)

/-- A test that is asked for, or ruled out. -/
structure Term where
  positive : Bool
  test : Test

/-- The terms of one field, in the form that its kind of field has. -/
inductive Rule where
  | text (field : TextField) (patterns : Selection Pattern)
  | date (field : DateField) (ranges : Selection DateRange)
  | flag (field : FlagField) (marks : Selection Unit)

namespace Term

/-- The pattern of a term on the given text field. -/
def patternFor? (field : TextField) (t : Term) : Option (Bool × Pattern) :=
  match t.test with
  | .text f pattern => if f = field then some (t.positive, pattern) else none
  | _ => none

/-- The range of a term on the given date field. -/
def rangeFor? (field : DateField) (t : Term) : Option (Bool × DateRange) :=
  match t.test with
  | .date f range => if f = field then some (t.positive, range) else none
  | _ => none

/-- The mark of a term on the given flag. -/
def markFor? (field : FlagField) (t : Term) : Option (Bool × Unit) :=
  match t.test with
  | .flag f => if f = field then some (t.positive, ()) else none
  | _ => none

end Term

namespace Rule

/-- The field that a rule tests. -/
def field : Rule → Field
  | text f _ => .text f
  | date f _ => .date f
  | flag f _ => .flag f

/-- Whether a rule has no terms. -/
def isEmpty : Rule → Bool
  | text _ patterns => patterns.isEmpty
  | date _ ranges => ranges.isEmpty
  | flag _ marks => marks.isEmpty

/-- Adds a term at the end of a rule; a term on another field adds nothing. -/
def add (t : Term) : Rule → Rule
  | text f patterns =>
      text f ((t.patternFor? f).elim patterns fun (positive, p) => patterns.push positive p)
  | date f ranges =>
      date f ((t.rangeFor? f).elim ranges fun (positive, r) => ranges.push positive r)
  | flag f marks =>
      flag f ((t.markFor? f).elim marks fun (positive, m) => marks.push positive m)

/-- The rule of the terms on a field. -/
def ofTerms (terms : List Term) : Field → Rule
  | .text f => text f (.ofSigned (terms.filterMap (·.patternFor? f)))
  | .date f => date f (.ofSigned (terms.filterMap (·.rangeFor? f)))
  | .flag f => flag f (.ofSigned (terms.filterMap (·.markFor? f)))

@[simp] theorem field_ofTerms (terms : List Term) (f : Field) : (ofTerms terms f).field = f := by
  cases f <;> rfl

end Rule

/-- At most one rule for each field, and none without terms. -/
@[ext] structure RuleTable where
  find? : Field → Option Rule
  field_of_find? : ∀ f rule, find? f = some rule → rule.field = f
  isEmpty_of_find? : ∀ f rule, find? f = some rule → rule.isEmpty = false

namespace RuleTable

def empty : RuleTable where
  find? _ := none
  field_of_find? _ _ := nofun
  isEmpty_of_find? _ _ := nofun

/-- The rule of a field, without terms if the table has none. -/
def ruleOf (t : RuleTable) (f : Field) : Rule := (t.find? f).getD (.ofTerms [] f)

/-- Takes the rule of a field out of the table. -/
def erase (t : RuleTable) (f : Field) : RuleTable where
  find? g := if g = f then none else t.find? g
  field_of_find? g rule h := by
    split at h
    next => simp at h
    next => exact t.field_of_find? g rule h
  isEmpty_of_find? g rule h := by
    split at h
    next => simp at h
    next => exact t.isEmpty_of_find? g rule h

/-- Puts a rule into the table, unless it is without terms. -/
def insert (t : RuleTable) (rule : Rule) : RuleTable :=
  if hempty : rule.isEmpty then t
  else {
    find? := fun g => if g = rule.field then some rule else t.find? g
    field_of_find? := fun g found h => by
      split at h
      next heq => exact Option.some.inj h ▸ heq.symm
      next => exact t.field_of_find? g found h
    isEmpty_of_find? := fun g found h => by
      split at h
      next => exact Option.some.inj h ▸ Bool.not_eq_true _ ▸ hempty
      next => exact t.isEmpty_of_find? g found h }

end RuleTable

end ArchiveSearch.Query
