import ArchiveSearch.Toml.Scalar

/-!
# Statements of TOML

A document is a list of statements on lines of their own: the header of a table, the header of a
table in an array of tables, or a key and its value. Keys are paths of names with points between
them. Arrays may run over several lines, tables in braces may not.
-/

namespace ArchiveSearch

/-- How a table came to be, which decides what may be added to it. -/
inductive TableKind where
  /-- It has a header of its own. -/
  | headed
  /-- It was named in the header of a table inside it. -/
  | implied
  /-- It was named in a key with points. -/
  | dotted
  /-- It is written in braces. -/
  | braced
deriving DecidableEq, Repr

/-- A value of a document. Of numbers with fractions and of times only the text is kept. -/
inductive Toml where
  | string (value : String)
  | integer (value : Int)
  | float (text : String)
  | boolean (value : Bool)
  | moment (text : String)
  | array (items : List Toml)
  | table (kind : TableKind) (entries : List (String × Toml))
  /-- An array of tables with headers, the last one first. -/
  | tables (reversed : List Toml)
deriving Inhabited

namespace Toml

/-- A path of names: those before the last, and the last. -/
structure Key where
  path : List String
  name : String
deriving DecidableEq, Repr

/-- A statement of a document. -/
inductive Statement where
  | header (key : Key)
  | arrayHeader (key : Key)
  | entry (key : Key) (value : Toml)

/-- How deep arrays and braces may be nested, and how many names a key may have. -/
def nestingLimit : Nat := 79

/-! ## Blanks and comments -/

/-- Drops spaces and tabs. -/
def dropGaps (text : List Char) : List Char := text.dropWhile isGap

/-- Drops a comment, which runs to the end of the line. -/
def dropComment : List Char → List Char
  | '#' :: rest => rest.dropWhile isPlain
  | text => text

/-- The rest of a line behind a statement: blanks, a comment, and the end of the line. -/
def endLine? (text : List Char) : Option (List Char) :=
  match dropComment (dropGaps text) with
  | [] => some []
  | rest => if startsBreak rest then some (dropBreak rest) else none

theorem dropGaps_length (text : List Char) : (dropGaps text).length ≤ text.length :=
  (List.dropWhile_suffix isGap).length_le

theorem dropComment_length (text : List Char) : (dropComment text).length ≤ text.length := by
  unfold dropComment
  split
  next rest =>
    have := (List.dropWhile_suffix (l := rest) isPlain).length_le
    simp only [List.length_cons]
    omega
  next => exact Nat.le_refl _

theorem dropBreak_length_of_startsBreak {text : List Char} (h : startsBreak text = true) :
    (dropBreak text).length < text.length := by
  unfold startsBreak at h
  split at h
  next => simp [dropBreak]
  next => simp only [dropBreak, List.length_cons]; omega
  next => simp at h

/-- Drops blanks, comments and line breaks. A comment that holds a control character stays. -/
def dropLines (text : List Char) : List Char :=
  let rest := dropComment (dropGaps text)
  if h : startsBreak rest then
    have := dropBreak_length_of_startsBreak h
    have := dropComment_length (dropGaps text)
    have := dropGaps_length text
    dropLines (dropBreak rest)
  else if !rest.isEmpty && (dropGaps text).head? == some '#' then '#' :: rest
  else rest
termination_by text.length
decreasing_by grind

/-! ## Keys -/

/-- Whether a character may stand in a name without quotes. -/
def isNameChar (c : Char) : Bool := c.isAlphanum || c == '_' || c == '-'

/-- Reads one name of a key. -/
def readName? : List Char → Option (List Char × List Char)
  | '"' :: rest => readBasic? rest
  | '\'' :: rest => readLiteral? rest
  | text =>
      match text.takeWhile isNameChar with
      | [] => none
      | name => some (name, text.dropWhile isNameChar)

/-- Reads the names of a key, `room` at most, with points and blanks between them. -/
def readNames? : Nat → List Char → Option (List String × List Char)
  | 0, _ => none
  | room + 1, text => do
      let (name, rest) ← readName? (dropGaps text)
      match dropGaps rest with
      | '.' :: rest =>
          let (names, rest) ← readNames? room rest
          return (String.ofList name :: names, rest)
      | rest => return ([String.ofList name], rest)

/-- Reads a key and the blanks around it. -/
def readKey? (text : List Char) : Option (Key × List Char) := do
  let (names, rest) ← readNames? nestingLimit text
  return (⟨names.dropLast, names.getLastD ""⟩, rest)

/-! ## Tables -/

/-- The entry of a name. -/
def find? (entries : List (String × Toml)) (name : String) : Option Toml :=
  (entries.find? fun entry => entry.1 = name).map (·.2)

/-- Puts a value under a name, in place of an older one. -/
def put (entries : List (String × Toml)) (name : String) (value : Toml) : List (String × Toml) :=
  if entries.any fun entry => entry.1 = name then
    entries.map fun entry => if entry.1 = name then (name, value) else entry
  else entries ++ [(name, value)]

/-- Changes the table that a path leads to, starting from a table. Tables that are missing are made
as the given kind. Keys with points must not lead into tables with headers, and nothing leads into
a value. -/
def alter? (made : TableKind) (change : Toml → Option Toml) : List String → Toml → Option Toml
  | [], t => change t
  | name :: rest, .table kind entries =>
      match find? entries name with
      | none => do
          let child ← alter? made change rest (.table made [])
          return .table kind (put entries name child)
      | some (.table .braced _) => none
      | some (.table childKind inside) =>
          if made = .dotted ∧ childKind = .headed then none
          else do
            let child ← alter? made change rest (.table childKind inside)
            return .table kind (put entries name child)
      | some (.tables (last :: before)) => do
          let last ← alter? made change rest last
          return .table kind (put entries name (.tables (last :: before)))
      | some _ => none
  | _ :: _, _ => none

/-- Adds an entry to a table; `viaPath` says whether a key with points has led to it. -/
def place? (viaPath : Bool) (name : String) (value : Toml) : Toml → Option Toml
  | .table kind entries =>
      if decide (kind = .dotted) = viaPath ∧ (find? entries name).isNone then
        some (.table kind (entries ++ [(name, value)]))
      else none
  | _ => none

/-- Adds an entry under a key to a table. -/
def insertKey? (key : Key) (value : Toml) (t : Toml) : Option Toml :=
  alter? .dotted (place? (!key.path.isEmpty) key.name value) key.path t

/-- The table in braces with the given entries. -/
def braced? (entries : List (Key × Toml)) : Option Toml := do
  match ← entries.foldlM (fun t (key, value) => insertKey? key value t) (.table .headed []) with
  | .table _ entries => some (.table .braced entries)
  | _ => none

/-! ## Values -/

/-- Reads the items of an array after its opening bracket. -/
def readItems? (item? : List Char → Option (Toml × List Char)) (text : List Char) :
    Option (List Toml × List Char) :=
  match dropLines text with
  | ']' :: after => some ([], after)
  | rest =>
      match item? rest with
      | none => none
      | some (item, after) =>
          match dropLines after with
          | ']' :: after => some ([item], after)
          | ',' :: after =>
              if after.length < text.length then
                (readItems? item? after).map fun (items, after) => (item :: items, after)
              else none
          | _ => none
termination_by text.length

/-- Reads a key, an equals sign and a value. -/
def readPair? (item? : List Char → Option (Toml × List Char)) (text : List Char) :
    Option ((Key × Toml) × List Char) := do
  let (key, rest) ← readKey? text
  match rest with
  | '=' :: rest =>
      let (value, rest) ← item? (dropGaps rest)
      return ((key, value), rest)
  | _ => none

/-- Reads the entries of a table in braces, of which there is at least one. -/
def readPairs? (item? : List Char → Option (Toml × List Char)) (text : List Char) :
    Option (List (Key × Toml) × List Char) :=
  match readPair? item? text with
  | none => none
  | some (entry, after) =>
      match dropGaps after with
      | '\x7d' :: after => some ([entry], after)
      | ',' :: after =>
          if after.length < text.length then
            (readPairs? item? after).map fun (entries, after) => (entry :: entries, after)
          else none
      | _ => none
termination_by text.length

/-- The value of a run of characters. -/
def ofRun? (run : List Char) : Option Toml :=
  if run == ['t', 'r', 'u', 'e'] then some (.boolean true)
  else if run == ['f', 'a', 'l', 's', 'e'] then some (.boolean false)
  else if isMoment run then some (.moment (String.ofList run))
  else if isFloat run then some (.float (String.ofList run))
  else (integer? run).map .integer

/-- Reads a value; `room` arrays and braces may contain one another. -/
def readValue? : Nat → List Char → Option (Toml × List Char)
  | room, '[' :: rest =>
      match room with
      | 0 => none
      | room + 1 => (readItems? (readValue? room) rest).map fun (items, after) =>
          (.array items, after)
  | room, '\x7b' :: rest =>
      match room with
      | 0 => none
      | room + 1 =>
          match dropGaps rest with
          | '\x7d' :: after => some (.table .braced [], after)
          | rest => do
              let (entries, after) ← readPairs? (readValue? room) rest
              return (← braced? entries, after)
  | _, text =>
      if text.head? == some '"' || text.head? == some '\'' then
        (readString? text).map fun (value, after) => (.string (String.ofList value), after)
      else
        let (run, after) := takeRun text
        (ofRun? run).map (·, after)

/-! ## Statements -/

/-- Reads a statement and the end of its line. -/
def readStatement? (text : List Char) : Option (Statement × List Char) :=
  match text with
  | '[' :: '[' :: rest => do
      let (key, rest) ← readKey? rest
      match rest with
      | ']' :: ']' :: rest => return (.arrayHeader key, ← endLine? rest)
      | _ => none
  | '[' :: rest => do
      let (key, rest) ← readKey? rest
      match rest with
      | ']' :: rest => return (.header key, ← endLine? rest)
      | _ => none
  | _ => do
      let ((key, value), rest) ← readPair? (readValue? nestingLimit) text
      return (.entry key value, ← endLine? rest)

/-- Reads all statements of a text. -/
def readStatements? (text : List Char) : Option (List Statement) :=
  match dropLines text with
  | [] => some []
  | rest =>
      match readStatement? rest with
      | none => none
      | some (statement, after) =>
          if after.length < text.length then
            (readStatements? after).map (statement :: ·)
          else none
termination_by text.length

end Toml

end ArchiveSearch
