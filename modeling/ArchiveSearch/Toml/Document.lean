import ArchiveSearch.Toml.Statement

/-!
# Documents of TOML

The statements of a document build up one table. A header says which table the entries below it
go to; no table may be headed twice, and no key may be given twice.
-/

namespace ArchiveSearch.Toml

/-- A document that is being built: its table, and the names that lead to the table under the last
header. -/
structure Draft where
  root : Toml := .table .headed []
  current : List String := []

/-- Gives a table in a table its header. It must be new, or have been named only in the headers of
tables inside it. -/
def head? (name : String) : Toml → Option Toml
  | .table kind entries =>
      match find? entries name with
      | none => some (.table kind (put entries name (.table .headed [])))
      | some (.table .implied inside) =>
          some (.table kind (put entries name (.table .headed inside)))
      | some _ => none
  | _ => none

/-- Begins another table in an array of tables. -/
def headItem? (name : String) : Toml → Option Toml
  | .table kind entries =>
      match find? entries name with
      | none => some (.table kind (put entries name (.tables [.table .headed []])))
      | some (.tables items) =>
          some (.table kind (put entries name (.tables (.table .headed [] :: items))))
      | some _ => none
  | _ => none

/-- Adds a statement to a document. -/
def Draft.add? (d : Draft) : Statement → Option Draft
  | .header key => do
      let root ← alter? .implied (head? key.name) key.path d.root
      return ⟨root, key.path ++ [key.name]⟩
  | .arrayHeader key => do
      let root ← alter? .implied (headItem? key.name) key.path d.root
      return ⟨root, key.path ++ [key.name]⟩
  | .entry key value => do
      let root ← alter? .implied (insertKey? key value) d.current d.root
      return { d with root }

/-- The table that statements build up. -/
def ofStatements? (statements : List Statement) : Option Toml :=
  (statements.foldlM Draft.add? {}).map Draft.root

/-- Drops a mark of the encoding at the beginning of a text. -/
def dropMark : List Char → List Char
  | '\ufeff' :: rest => rest
  | text => text

/-- The table that a text stands for. -/
def read? (text : String) : Option Toml := do
  ofStatements? (← readStatements? (dropMark text.toList))

/-! ## Taking values out of a document -/

/-- The values of the given names, where there are any. An array stands for the values in their
order, and a time for none of them. -/
def fields? (names : List String) : Toml → Option (List (Option Toml))
  | .table _ entries => some (names.map (find? entries))
  | .array items => some (names.zipIdx.map fun (_, i) => items[i]?)
  | .tables reversed => some (names.zipIdx.map fun (_, i) => reversed.reverse[i]?)
  | .moment _ => some (names.map fun _ => none)
  | _ => none

/-- Applies a reader to a value; a missing one has a value already. -/
def orElse? {α : Type} (missing : α) (read? : Toml → Option α) : Option Toml → Option α
  | some value => read? value
  | none => some missing

def string? : Toml → Option String
  | .string s => some s
  | _ => none

def boolean? : Toml → Option Bool
  | .boolean b => some b
  | _ => none

/-- Reads an integer that is not negative. -/
def natural? : Toml → Option Nat
  | .integer n => if 0 ≤ n then some n.toNat else none
  | _ => none

end ArchiveSearch.Toml
