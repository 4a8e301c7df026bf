/-!
# Selections

A selection holds what is asked for and what is ruled out, each in the order in which it was
written. The selection of names is a scope; without names to search in, all are searched.
-/

namespace ArchiveSearch.Query

/-- What is asked for, and what is ruled out. -/
structure Selection (α : Type) where
  included : List α := []
  excluded : List α := []
deriving DecidableEq, Repr

namespace Selection

variable {α : Type}

/-- Adds an entry at the end of its side. -/
def push (s : Selection α) (positive : Bool) (entry : α) : Selection α :=
  if positive then { s with included := s.included ++ [entry] }
  else { s with excluded := s.excluded ++ [entry] }

/-- The selection of entries that are marked as asked for or ruled out. -/
def ofSigned (entries : List (Bool × α)) : Selection α where
  included := entries.filterMap fun (positive, entry) => if positive then some entry else none
  excluded := entries.filterMap fun (positive, entry) => if positive then none else some entry

def isEmpty (s : Selection α) : Bool :=
  s.included.isEmpty && s.excluded.isEmpty

end Selection

/-- Names to search in and names to leave out. -/
abbrev Scope := Selection String

/-- Whether a name is in the scope. -/
def Scope.admits (s : Scope) (name : String) : Bool :=
  (s.included.isEmpty || s.included.contains name) && !s.excluded.contains name

end ArchiveSearch.Query
