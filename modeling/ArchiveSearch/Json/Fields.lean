import ArchiveSearch.Json.Written

/-!
# Reading records from JSON

A record is written as an object with its fields by name, or as an array of its fields in their
order. Fields may be missing but not repeated. Entries of other names are skipped, and only the
structure of what they hold has to be right.
-/

namespace ArchiveSearch.Json

namespace Written

mutual

/-- A value as it may be written. -/
def ofJson : Json → Written
  | .null => null
  | .bool b => bool b
  | .number n => number (some n)
  | .string s => string (some s)
  | .array items => array (ofItems items)
  | .object entries => object (ofEntries entries)

def ofItems : List Json → List Written
  | [] => []
  | item :: rest => ofJson item :: ofItems rest

def ofEntries : List (String × Json) → List (Option String × Written)
  | [] => []
  | entry :: rest => (some entry.1, ofJson entry.2) :: ofEntries rest

end

/-- The only entry of the given name; there may be none, but not two. -/
def lookUp? (entries : List (Option String × Written)) (name : String) :
    Option (Option Written) :=
  match entries.filter fun entry => entry.1 = some name with
  | [] => some none
  | [entry] => some (some entry.2)
  | _ => none

/-- The fields of a record by the given names, which may be missing. -/
def fields? (names : List String) : Written → Option (List (Option Written))
  | object entries =>
      if entries.all (·.1.isSome) then names.mapM (lookUp? entries) else none
  | array items =>
      if items.length ≤ names.length then
        some (items.map some ++ List.replicate (names.length - items.length) none)
      else none
  | _ => none

/-- Applies a reader to a field; a missing one has a value already. -/
def orElse? {α : Type} (missing : α) (read? : Written → Option α) :
    Option Written → Option α
  | some value => read? value
  | none => some missing

/-- Reads a string. -/
def string? : Written → Option String
  | string s => s
  | _ => none

/-- Reads a truth value. -/
def bool? : Written → Option Bool
  | bool b => some b
  | _ => none

/-- Reads a string or `null`. -/
def text? : Written → Option (Option String)
  | null => some none
  | string s => s.map some
  | _ => none

/-- Reads an array of which every item is read in the same way. -/
def list? {α : Type} (read? : Written → Option α) : Written → Option (List α)
  | array items => items.mapM read?
  | _ => none

/-- Reads one entry of an object. -/
def pair? {α : Type} (read? : Written → Option α) (entry : Option String × Written) :
    Option (String × α) := do
  return (← entry.1, ← read? entry.2)

/-- Reads an object in which every entry is read in the same way. The last entry of a name
counts. -/
def dictionary? {α : Type} (read? : Written → Option α) : Written → Option (Dictionary α)
  | object entries =>
      (entries.mapM (pair? read?)).map .ofList
  | _ => none

end Written

end ArchiveSearch.Json
